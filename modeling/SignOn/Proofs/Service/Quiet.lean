import SignOn.Proofs.Service.Logic
import SignOn.Proofs.Store.Revisions
import SignOn.Service.Operation
/-!
# The steps that operations use

An operation looks at no deadline but that of its own request,
`Service.perform_isFor`. Most operations have nothing to do with
sessions: they are quiet, `Service.quiet_perform`. And those that have
something to do with sessions, or only look, leave the accounts alone and
publish nothing: they are sparing, `Service.sparing_perform`.
-/

namespace SignOn

namespace Effect

/-- A step that looks at no other deadline than that of a request. -/
def IsFor (ctx : RequestContext) : Effect → Prop
  | .deadline c | .query c _ => c = ctx
  | _ => True

/-- A step that leaves sessions alone. -/
def isQuiet : Effect → Bool
  | .query _ (.openSession _ _ _) => false
  | .query _ (.endSession _) => false
  | .query _ (.purge _) => false
  | _ => true

/-- A step for a request that leaves sessions alone. -/
def Quiet (ctx : RequestContext) (e : Effect) : Prop :=
  e.isQuiet = true ∧ e.IsFor ctx

/-- A step that leaves accounts alone and publishes nothing. -/
def isSparing : Effect → Bool
  | .query _ q => !q.writes
  | .publish _ _ _ => false
  | _ => true

/-- A step for a request that leaves accounts alone and publishes
nothing. -/
def Sparing (ctx : RequestContext) (e : Effect) : Prop :=
  e.isSparing = true ∧ e.IsFor ctx

/-- A step with which sessions are purged. -/
def isPurge : Effect → Bool
  | .query _ (.purge _) => true
  | _ => false

/-- A step that does not purge. -/
def Spares (e : Effect) : Prop :=
  e.isPurge = false

/-- A step for a request with which a session is opened, ended or looked
for. -/
def Sessional (ctx : RequestContext) (e : Effect) : Prop :=
  e.Sparing ctx ∧ e.Spares

end Effect

namespace Service

open Procedure

variable (s : Service) (ctx : RequestContext) {P : Effect → Prop}

/-! ## Pieces -/

theorem uses_hashPassword (hdeadline : P (.deadline ctx)) (hsalt : P .salt) (password : String) :
    (s.hashPassword ctx password).Uses P :=
  ((uses_step hdeadline).bind fun _ => uses_require _ _).bind fun _ =>
    (uses_step hsalt).bind fun _ => uses_ofExcept _ _

theorem uses_verifyPassword (hdeadline : P (.deadline ctx)) (password hash : String) :
    (verifyPassword ctx password hash).Uses P :=
  ((uses_step hdeadline).bind fun _ => uses_require _ _).bind fun _ => uses_pure _

theorem uses_requireValidIfPresent (field : Field) (text : Option String) :
    (s.requireValidIfPresent field text).Uses P := by
  cases text with
  | none => exact uses_pure ()
  | some text => exact uses_require _ _

theorem uses_issue (hclock : P .clock) (hidentifier : P .identifier)
    (sign : Int → String → Except (Failure TokenError) IssuedToken) : (issue sign).Uses P :=
  (uses_now hclock).bind fun _ => (uses_step hidentifier).bind fun _ => uses_ofResult _ _

theorem uses_accountOfAccess (hclock : P .clock) (token : String) :
    (s.accountOfAccess token).Uses P :=
  (uses_now hclock).bind fun _ => uses_expect _ _

theorem uses_accountOfOpaque (hclock : P .clock) (token : String) (kind : TokenKind) :
    (s.accountOfOpaque token kind).Uses P :=
  (uses_ofExcept _ _).bind fun _ => (uses_now hclock).bind fun _ => uses_expect _ _

theorem uses_announce (hpublish : ∀ subject payload, P (.publish ctx subject payload))
    (occasion : Occasion) (id : Int) (token : String) :
    (s.announce ctx occasion id token).Uses P :=
  (uses_step (hpublish _ _)).bind fun _ => uses_ofExcept _ _

theorem uses_announceVerifyEmail (hclock : P .clock) (hidentifier : P .identifier)
    (hpublish : ∀ subject payload, P (.publish ctx subject payload)) (id : Int) :
    (s.announceVerifyEmail ctx id).Uses P :=
  (uses_issue hclock hidentifier _).bind fun _ => s.uses_announce ctx hpublish _ _ _

theorem uses_announceForgetPassword (hclock : P .clock) (hidentifier : P .identifier)
    (hpublish : ∀ subject payload, P (.publish ctx subject payload)) (id : Int) :
    (s.announceForgetPassword ctx id).Uses P :=
  (uses_issue hclock hidentifier _).bind fun _ => s.uses_announce ctx hpublish _ _ _

/-! ## How many steps they take -/

theorem takes_issue (sign : Int → String → Except (Failure TokenError) IssuedToken) :
    Takes 2 (issue sign) :=
  takes_now.bind fun _ => (takes_step _).bind fun _ => takes_ofResult _ _

theorem takes_verifyPassword (ctx : RequestContext) (password hash : String) :
    Takes 1 (verifyPassword ctx password hash) :=
  ((takes_step _).bind fun _ => takes_require _ _).bind fun _ => takes_pure _

theorem takes_hashPassword (password : String) : Takes 2 (s.hashPassword ctx password) :=
  ((takes_step _).bind fun _ => takes_require _ _).bind fun _ =>
    (takes_step _).bind fun _ => takes_ofExcept _ _

theorem takes_accountOfOpaque (token : String) (kind : TokenKind) :
    Takes 1 (s.accountOfOpaque token kind) :=
  (takes_ofExcept _ _).bind fun _ => takes_now.bind fun _ => takes_expect _ _

theorem takes_announceVerifyEmail (id : Int) : Takes 3 (s.announceVerifyEmail ctx id) :=
  (takes_issue _).bind fun _ => (takes_step _).bind fun _ => takes_ofExcept _ _

/-! ## Quiet operations -/

theorem quiet_clock : Effect.Quiet ctx .clock := ⟨rfl, trivial⟩

theorem quiet_identifier : Effect.Quiet ctx .identifier := ⟨rfl, trivial⟩

theorem quiet_salt : Effect.Quiet ctx .salt := ⟨rfl, trivial⟩

theorem quiet_deadline : Effect.Quiet ctx (.deadline ctx) := ⟨rfl, rfl⟩

theorem quiet_publish (subject : String) (payload : List UInt8) :
    Effect.Quiet ctx (.publish ctx subject payload) := ⟨rfl, trivial⟩

theorem quiet_register (input : Registration) :
    (s.register ctx input).Uses (Effect.Quiet ctx) := by
  refine (uses_require _ _).bind fun _ => (uses_require _ _).bind fun _ =>
    (uses_require _ _).bind fun _ =>
      (s.uses_hashPassword ctx (quiet_deadline ctx) (quiet_salt ctx) _).bind fun hash =>
        (uses_step ⟨rfl, rfl⟩).bind fun found => ?_
  split
  · exact uses_report _
  · refine (uses_ask ⟨rfl, rfl⟩ _).bind fun id => Uses.bind ?_ fun _ => uses_pure _
    exact (s.uses_announceVerifyEmail ctx (quiet_clock ctx) (quiet_identifier ctx)
      (quiet_publish ctx) id).recover fun _ => uses_pure _
  · exact uses_report _

theorem quiet_sendVerifyEmail (email : String) :
    (s.sendVerifyEmail ctx email).Uses (Effect.Quiet ctx) :=
  (uses_ask ⟨rfl, rfl⟩ _).bind fun _ => (uses_require _ _).bind fun _ =>
    s.uses_announceVerifyEmail ctx (quiet_clock ctx) (quiet_identifier ctx) (quiet_publish ctx) _

theorem quiet_verifyEmail (token : String) :
    (s.verifyEmail ctx token).Uses (Effect.Quiet ctx) :=
  (s.uses_accountOfOpaque (quiet_clock ctx) token _).bind fun _ =>
    (uses_ask ⟨rfl, rfl⟩ _).bind fun _ => (uses_require _ _).bind fun _ => uses_ask ⟨rfl, rfl⟩ _

theorem quiet_sendForgetPassword (email : String) :
    (s.sendForgetPassword ctx email).Uses (Effect.Quiet ctx) :=
  (uses_ask ⟨rfl, rfl⟩ _).bind fun _ => (uses_require _ _).bind fun _ =>
    s.uses_announceForgetPassword ctx (quiet_clock ctx) (quiet_identifier ctx)
      (quiet_publish ctx) _

theorem quiet_forgetPassword (token newPassword : String) :
    (s.forgetPassword ctx token newPassword).Uses (Effect.Quiet ctx) :=
  (uses_require _ _).bind fun _ => (s.uses_accountOfOpaque (quiet_clock ctx) token _).bind fun _ =>
    (uses_ask ⟨rfl, rfl⟩ _).bind fun _ =>
      (uses_verifyPassword ctx (quiet_deadline ctx) _ _).bind fun _ =>
        (uses_require _ _).bind fun _ =>
          (s.uses_hashPassword ctx (quiet_deadline ctx) (quiet_salt ctx) _).bind fun _ =>
            uses_ask ⟨rfl, rfl⟩ _

theorem quiet_changePassword (token oldPassword newPassword : String) :
    (s.changePassword ctx token oldPassword newPassword).Uses (Effect.Quiet ctx) :=
  (uses_require _ _).bind fun _ => (uses_require _ _).bind fun _ =>
    (s.uses_accountOfAccess (quiet_clock ctx) token).bind fun _ =>
      (uses_ask ⟨rfl, rfl⟩ _).bind fun _ =>
        (uses_verifyPassword ctx (quiet_deadline ctx) _ _).bind fun _ =>
          (uses_require _ _).bind fun _ =>
            (s.uses_hashPassword ctx (quiet_deadline ctx) (quiet_salt ctx) _).bind fun _ =>
              uses_ask ⟨rfl, rfl⟩ _

theorem quiet_getMe (token : String) : (s.getMe ctx token).Uses (Effect.Quiet ctx) :=
  (s.uses_accountOfAccess (quiet_clock ctx) token).bind fun _ => uses_ask ⟨rfl, rfl⟩ _

theorem quiet_updateProfile (token : String) (patch : ProfilePatch) :
    (s.updateProfile ctx token patch).Uses (Effect.Quiet ctx) :=
  (s.uses_requireValidIfPresent _ _).bind fun _ => (s.uses_requireValidIfPresent _ _).bind
    fun _ => (s.uses_requireValidIfPresent _ _).bind fun _ =>
      (s.uses_accountOfAccess (quiet_clock ctx) token).bind fun _ =>
        (uses_ask ⟨rfl, rfl⟩ _).bind fun _ => uses_ask ⟨rfl, rfl⟩ _

end Service

/-- Operations that leave sessions alone. -/
def Operation.isQuiet : Operation → Bool
  | .login _ _ | .refresh _ | .logout _ | .purge => false
  | _ => true

namespace Service

open Procedure

/-- **Most operations are quiet.** -/
theorem quiet_perform (s : Service) (ctx : RequestContext) {op : Operation}
    (h : op.isQuiet = true) : (s.perform ctx op).Uses (Effect.Quiet ctx) := by
  cases op with
  | register input => exact (s.quiet_register ctx input).map _
  | login email password => cases h
  | refresh token => cases h
  | logout token => cases h
  | sendVerifyEmail email => exact (s.quiet_sendVerifyEmail ctx email).map _
  | verifyEmail token => exact (s.quiet_verifyEmail ctx token).map _
  | sendForgetPassword email => exact (s.quiet_sendForgetPassword ctx email).map _
  | forgetPassword token new => exact (s.quiet_forgetPassword ctx token new).map _
  | changePassword token old new => exact (s.quiet_changePassword ctx token old new).map _
  | getMe token => exact (s.quiet_getMe ctx token).map _
  | getUser id => exact (uses_ask ⟨rfl, rfl⟩ _).map _
  | getUserByEmail email => exact (uses_ask ⟨rfl, rfl⟩ _).map _
  | getUsers page => exact (uses_ask ⟨rfl, rfl⟩ _).map _
  | updateProfile token patch => exact (s.quiet_updateProfile ctx token patch).map _
  | purge => cases h

end Service

/-- Operations that leave accounts alone and publish nothing. -/
def Operation.isSparing : Operation → Bool
  | .login _ _ | .refresh _ | .logout _ | .getMe _ | .getUser _ | .getUserByEmail _ | .getUsers _
  | .purge => true
  | _ => false

namespace Service

open Procedure

/-! ## Operations on sessions -/

theorem sparing_clock (ctx : RequestContext) : Effect.Sparing ctx .clock := ⟨rfl, trivial⟩

theorem sparing_query (ctx : RequestContext) {q : Query} (h : q.writes = false) :
    Effect.Sparing ctx (.query ctx q) :=
  ⟨congrArg not h, rfl⟩

theorem sessional_clock (ctx : RequestContext) : Effect.Sessional ctx .clock :=
  ⟨sparing_clock ctx, rfl⟩

theorem sessional_identifier (ctx : RequestContext) : Effect.Sessional ctx .identifier :=
  ⟨⟨rfl, trivial⟩, rfl⟩

theorem sessional_deadline (ctx : RequestContext) : Effect.Sessional ctx (.deadline ctx) :=
  ⟨⟨rfl, rfl⟩, rfl⟩

theorem sessional_query (ctx : RequestContext) {q : Query} (h : q.writes = false)
    (h' : (Effect.query ctx q).isPurge = false) : Effect.Sessional ctx (.query ctx q) :=
  ⟨sparing_query ctx h, h'⟩

theorem sessional_openSession (s : Service) (ctx : RequestContext) (u : Int) :
    (s.openSession ctx u).Uses (Effect.Sessional ctx) :=
  (uses_issue (sessional_clock ctx) (sessional_identifier ctx) _).bind fun _ =>
    (uses_issue (sessional_clock ctx) (sessional_identifier ctx) _).bind fun _ =>
      (uses_ask (sessional_query ctx rfl rfl) _).bind fun _ => uses_pure _

theorem sessional_endLiveSession (ctx : RequestContext) (u : Int) :
    (endLiveSession ctx u).Uses (Effect.Sessional ctx) := by
  refine (uses_step (sessional_query ctx rfl rfl)).bind fun found => ?_
  split
  · exact uses_pure _
  · exact uses_report _
  · exact uses_ask (sessional_query ctx rfl rfl) _

theorem sessional_login (s : Service) (ctx : RequestContext) (email password : String) :
    (s.login ctx email password).Uses (Effect.Sessional ctx) :=
  (uses_ask (sessional_query ctx rfl rfl) _).bind fun _ => (uses_require _ _).bind fun _ =>
    (uses_verifyPassword ctx (sessional_deadline ctx) _ _).bind fun _ => (uses_require _ _).bind
      fun _ => (sessional_endLiveSession ctx _).bind fun _ => s.sessional_openSession ctx _

theorem sessional_refresh (s : Service) (ctx : RequestContext) (token : String) :
    (s.refresh ctx token).Uses (Effect.Sessional ctx) :=
  (uses_ofExcept _ _).bind fun _ => (uses_now (sessional_clock ctx)).bind fun _ =>
    (uses_expect _ _).bind fun _ => (uses_expect _ _).bind fun _ =>
      (uses_ask (sessional_query ctx rfl rfl) _).bind fun _ => (uses_require _ _).bind fun _ =>
        (uses_now (sessional_clock ctx)).bind fun _ => (uses_expect _ _).bind fun _ =>
          (uses_require _ _).bind fun _ =>
            (uses_ask (sessional_query ctx rfl rfl) _).bind fun _ =>
              s.sessional_openSession ctx _

theorem sessional_logout (s : Service) (ctx : RequestContext) (token : String) :
    (s.logout ctx token).Uses (Effect.Sessional ctx) := by
  refine (s.uses_accountOfAccess (sessional_clock ctx) token).bind fun u =>
    (sessional_endLiveSession ctx u).recover fun e => ?_
  split
  · exact uses_pure _
  · exact uses_report _

/-! ## Sparing operations -/

theorem sparing_purge (ctx : RequestContext) : (purge ctx).Uses (Effect.Sparing ctx) :=
  (uses_now (sparing_clock ctx)).bind fun _ => uses_ask (sparing_query ctx rfl) _

theorem sparing_getMe (s : Service) (ctx : RequestContext) (token : String) :
    (s.getMe ctx token).Uses (Effect.Sparing ctx) :=
  (s.uses_accountOfAccess (sparing_clock ctx) token).bind fun _ =>
    uses_ask (sparing_query ctx rfl) _

/-- **Operations on sessions are sparing**, and so are those that only
look. -/
theorem sparing_perform (s : Service) (ctx : RequestContext) {op : Operation}
    (h : op.isSparing = true) : (s.perform ctx op).Uses (Effect.Sparing ctx) := by
  cases op with
  | login email password =>
    exact ((s.sessional_login ctx email password).mono fun _ he => he.1).map _
  | refresh token => exact ((s.sessional_refresh ctx token).mono fun _ he => he.1).map _
  | logout token => exact ((s.sessional_logout ctx token).mono fun _ he => he.1).map _
  | purge => exact (sparing_purge ctx).map _
  | getMe token => exact (s.sparing_getMe ctx token).map _
  | getUser id => exact (uses_ask (sparing_query ctx rfl) _).map _
  | getUserByEmail email => exact (uses_ask (sparing_query ctx rfl) _).map _
  | getUsers page => exact (uses_ask (sparing_query ctx rfl) _).map _
  | _ => cases h

/-! ## Deadlines of others -/

/-- **An operation looks at no deadline but its own.** -/
theorem perform_isFor (s : Service) (ctx : RequestContext) (op : Operation) :
    (s.perform ctx op).Uses (Effect.IsFor ctx) := by
  cases op with
  | login _ _ | refresh _ | logout _ | purge =>
    exact (s.sparing_perform ctx rfl).mono fun _ he => he.2
  | _ => exact (s.quiet_perform ctx rfl).mono fun _ he => he.2

end Service

end SignOn
