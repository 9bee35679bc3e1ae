import SignOn.Proofs.Service.Alike
import SignOn.Rpc.Endpoint
/-!
# Calls that go alike

Every call goes alike with itself: what it answers depends on no more
than the kinds of the storage errors that it meets,
`Service.alike_serve_self`. And a call that is not about passwords does not
look at the password hashes of the accounts that it gets,
`Service.alike_serve`.
-/

namespace SignOn

/-- Callers are not told the password hash. -/
@[simp] theorem UserMessage.ofAccount_unhashed (a : Account) : ofAccount a.unhashed = ofAccount a :=
  rfl

namespace Account

variable {a b : Account}

theorem id_eq_of_unhashed_eq (h : a.unhashed = b.unhashed) : a.id = b.id :=
  (congrArg Account.id h :)

theorem emailConfirmed_eq_of_unhashed_eq (h : a.unhashed = b.unhashed) :
    a.emailConfirmed = b.emailConfirmed :=
  (congrArg Account.emailConfirmed h :)

theorem told_eq_of_unhashed_eq (h : a.unhashed = b.unhashed) :
    UserMessage.ofAccount a = UserMessage.ofAccount b :=
  (congrArg UserMessage.ofAccount h :)

end Account

/-- Calls that look at password hashes. -/
def RpcRequest.readsHash : RpcRequest → Bool
  | .login _ _ | .forgetPassword _ _ | .changePassword _ _ _ => true
  | _ => false

namespace Service

open Procedure

variable {view : Account → Account} (s : Service) (ctx : RequestContext)

/-! ## Pieces -/

theorem alike_accountOfAccess (token : String) :
    (s.accountOfAccess token).Alike view Eq (s.accountOfAccess token) :=
  (s.uses_accountOfAccess trivial token).alike

theorem alike_accountOfOpaque (token : String) (kind : TokenKind) :
    (s.accountOfOpaque token kind).Alike view Eq (s.accountOfOpaque token kind) :=
  (s.uses_accountOfOpaque trivial token kind).alike

theorem alike_hashPassword (password : String) :
    (s.hashPassword ctx password).Alike view Eq (s.hashPassword ctx password) :=
  (s.uses_hashPassword ctx trivial trivial password).alike

theorem alike_issue (sign : Int → String → Except (Failure TokenError) IssuedToken) :
    (issue sign).Alike view Eq (issue sign) :=
  (uses_issue trivial trivial sign).alike

/-- What a notification error was is told in the log only. -/
theorem alike_announce (occasion : Occasion) (id : Int) (token : String) :
    (s.announce ctx occasion id token).Alike view Eq (s.announce ctx occasion id token) := by
  refine (alike_step (.publish ctx _ _)).bind fun r r' hr => ?_
  cases r with
  | ok u =>
    cases r' with
    | ok u' => exact alike_pure rfl
    | error c' => cases hr
  | error c =>
    cases r' with
    | ok u' => cases hr
    | error c' => exact alike_report (.notification c c')

theorem alike_announceVerifyEmail (id : Int) :
    (s.announceVerifyEmail ctx id).Alike view Eq (s.announceVerifyEmail ctx id) :=
  (alike_issue _).bind_eq fun _ => s.alike_announce ctx _ _ _

theorem alike_announceForgetPassword (id : Int) :
    (s.announceForgetPassword ctx id).Alike view Eq (s.announceForgetPassword ctx id) :=
  (alike_issue _).bind_eq fun _ => s.alike_announce ctx _ _ _

theorem alike_openSession (id : Int) :
    (s.openSession ctx id).Alike view Eq (s.openSession ctx id) := by
  refine (alike_issue _).bind_eq fun access => (alike_issue _).bind_eq fun refresh => ?_
  refine (alike_ask ctx _ ?_).bind fun _ _ _ => alike_pure rfl
  exact StoreError.byKind_of_internal (fun _ => ⟨rfl, rfl, rfl, rfl⟩) (fun _ _ => .storage _ _)
    fun _ _ => .same _

theorem alike_endLiveSession (id : Int) :
    (endLiveSession ctx id).Alike view Eq (endLiveSession ctx id) := by
  refine (alike_step (.query ctx (.liveSession id))).bind fun r r' hr => ?_
  rcases hr.query_cases with ⟨session, session', rfl, rfl, hsame⟩ | ⟨e, e', rfl, rfl, hkind⟩
  · obtain rfl : session = session' := hsame
    exact alike_ask_eq ctx (.endSession session.value) (fun _ => rfl)
      (StoreError.byKind_of_internal (fun _ => ⟨rfl, rfl, rfl, rfl⟩) (fun _ _ => .same _)
        fun _ _ => .storage _ _)
  · rcases StoreError.cases_of_kind_eq hkind with
      ⟨he, he'⟩ | ⟨what, what', rfl, rfl⟩ | ⟨what, what', rfl, rfl⟩ | ⟨rfl, rfl⟩
    · cases e <;> cases he <;> cases e' <;> cases he' <;> exact alike_report (.storage _ _)
    · exact alike_pure rfl
    · exact alike_report (.storage _ _)
    · exact alike_report (.same _)

/-! ## Operations that do not look at password hashes -/

theorem alike_register (input : Registration) :
    (s.register ctx input).Alike view Eq (s.register ctx input) := by
  refine (alike_require _ _).bind_eq fun _ => (alike_require _ _).bind_eq fun _ =>
    (alike_require _ _).bind_eq fun _ => (s.alike_hashPassword ctx _).bind_eq fun hash => ?_
  refine (alike_step (.query ctx (.accountByEmail input.email))).bind fun r r' hr => ?_
  rcases hr.query_cases with ⟨x, x', rfl, rfl, -⟩ | ⟨e, e', rfl, rfl, hkind⟩
  · exact alike_report (.same _)
  · rcases StoreError.cases_of_kind_eq hkind with
      ⟨he, he'⟩ | ⟨what, what', rfl, rfl⟩ | ⟨what, what', rfl, rfl⟩ | ⟨rfl, rfl⟩
    · cases e <;> cases he <;> cases e' <;> cases he' <;> exact alike_report (.storage _ _)
    · -- the address is free, and the registration goes on
      refine (alike_ask_eq ctx (.insertAccount ⟨_, hash, _⟩) (fun _ => rfl) ?_).bind_eq fun id => ?_
      · exact StoreError.byKind_of_internal (fun _ => ⟨rfl, rfl, rfl, rfl⟩)
          (fun _ _ => .storage _ _) fun _ _ => .same _
      -- whether the owner could be told makes no difference
      · have hannounce : Procedure.Alike view Eq
            (recover (s.announceVerifyEmail ctx id) fun _ => pure ())
            (recover (s.announceVerifyEmail ctx id) fun _ => pure ()) :=
          (s.alike_announceVerifyEmail ctx id).recover fun _ _ _ => alike_pure rfl
        exact hannounce.bind_eq fun _ => alike_pure rfl
    · exact alike_report (.storage _ _)
    · exact alike_report (.same _)

theorem alike_refresh (token : String) :
    (s.refresh ctx token).Alike view Eq (s.refresh ctx token) := by
  refine (uses_ofExcept _ _).alike.bind_eq fun token => (uses_now trivial).alike.bind_eq fun now =>
    (alike_expect _ _).bind_eq fun access => (alike_expect _ _).bind_eq fun id => ?_
  refine (alike_ask_eq ctx (.liveSession id) (fun _ => rfl) ?_).bind_eq fun session => ?_
  · exact StoreError.byKind_of_internal (fun _ => ⟨rfl, rfl, rfl, rfl⟩) (fun _ _ => .same _)
      fun _ _ => .storage _ _
  refine (alike_require _ _).bind_eq fun _ => (uses_now trivial).alike.bind_eq fun now' =>
    (alike_expect _ _).bind_eq fun stored => (alike_require _ _).bind_eq fun _ => ?_
  exact (alike_ask_eq ctx (.endSession _) (fun _ => rfl) (StoreError.byKind_const _)).bind_eq
    fun _ => s.alike_openSession ctx id

theorem alike_logout (token : String) :
    (s.logout ctx token).Alike view Eq (s.logout ctx token) := by
  refine (s.alike_accountOfAccess token).bind ?_
  rintro id _ rfl
  refine (alike_endLiveSession ctx id).recover fun e e' he => ?_
  cases he with
  | same e =>
    cases e with
    | sessionNotFound => exact alike_pure rfl
    | _ => exact alike_report (.same _)
  | storage c c' => exact alike_report (.storage c c')
  | notification c c' => exact alike_report (.notification c c')

theorem alike_sendVerifyEmail (email : String) :
    (s.sendVerifyEmail ctx email).Alike Account.unhashed Eq (s.sendVerifyEmail ctx email) := by
  refine (alike_ask ctx _ StoreError.byKind_ofLookup).bind fun a b hab => ?_
  rw [Account.id_eq_of_unhashed_eq hab, Account.emailConfirmed_eq_of_unhashed_eq hab]
  exact (alike_require _ _).bind_eq fun _ => s.alike_announceVerifyEmail ctx b.id

theorem alike_sendForgetPassword (email : String) :
    (s.sendForgetPassword ctx email).Alike Account.unhashed Eq
      (s.sendForgetPassword ctx email) := by
  refine (alike_ask ctx _ StoreError.byKind_ofLookup).bind fun a b hab => ?_
  rw [Account.id_eq_of_unhashed_eq hab, Account.emailConfirmed_eq_of_unhashed_eq hab]
  exact (alike_require _ _).bind_eq fun _ => s.alike_announceForgetPassword ctx b.id

theorem alike_verifyEmail (token : String) :
    (s.verifyEmail ctx token).Alike Account.unhashed Eq (s.verifyEmail ctx token) := by
  refine (s.alike_accountOfOpaque token _).bind_eq fun id => ?_
  refine (alike_ask ctx _ StoreError.byKind_ofLookup).bind fun a b hab => ?_
  rw [Account.emailConfirmed_eq_of_unhashed_eq hab]
  refine (alike_require _ _).bind_eq fun _ => alike_ask_eq ctx (.confirmEmail id) (fun _ => rfl) ?_
  exact StoreError.byKind_of_internal (fun _ => ⟨rfl, rfl, rfl, rfl⟩) (fun _ _ => .same _)
    fun _ _ => .same _

theorem alike_requireValidIfPresent (field : Field) (text : Option String) :
    (s.requireValidIfPresent field text).Alike view Eq (s.requireValidIfPresent field text) :=
  (s.uses_requireValidIfPresent field text).alike

theorem alike_updateProfile (token : String) (patch : ProfilePatch) :
    (s.updateProfile ctx token patch).Alike view Eq (s.updateProfile ctx token patch) := by
  refine (s.alike_requireValidIfPresent _ _).bind_eq fun _ =>
    (s.alike_requireValidIfPresent _ _).bind_eq fun _ =>
      (s.alike_requireValidIfPresent _ _).bind_eq fun _ =>
        (s.alike_accountOfAccess token).bind_eq fun id => ?_
  -- the account must be there, and nothing else about it matters
  exact (alike_ask ctx _ StoreError.byKind_ofLookup).bind fun _ _ _ =>
    alike_ask_eq ctx (.updateProfile id patch) (fun _ => rfl) StoreError.byKind_ofStore

/-- An account is told without its password hash. -/
theorem alike_told {x : Procedure Account}
    (h : x.Alike Account.unhashed (fun a b => a.unhashed = b.unhashed) x) :
    (do return RpcResponse.user (.ofAccount (← x))).Alike Account.unhashed Eq
      (do return RpcResponse.user (.ofAccount (← x)) : Procedure RpcResponse) :=
  h.bind fun _ _ hab => alike_pure (congrArg RpcResponse.user (Account.told_eq_of_unhashed_eq hab))

theorem alike_getMe (token : String) :
    (s.getMe ctx token).Alike Account.unhashed (fun a b => a.unhashed = b.unhashed)
      (s.getMe ctx token) :=
  (s.alike_accountOfAccess token).bind_eq fun id =>
    alike_ask ctx (.accountById id) StoreError.byKind_ofLookup

/-- **A call that is not about passwords** goes alike with itself where
accounts are seen without their password hashes. -/
theorem alike_serve {request : RpcRequest} (h : request.readsHash = false) :
    (s.serve ctx request).Alike Account.unhashed Eq (s.serve ctx request) := by
  -- what answers the same is told the same
  have htold {α : Type} {x : Procedure α} (hx : x.Alike Account.unhashed Eq x)
      (tell : α → RpcResponse) :
      Procedure.Alike Account.unhashed Eq (do return tell (← x)) (do return tell (← x)) :=
    hx.bind_eq fun _ => alike_pure rfl
  cases request with
  | register email password displayName => exact htold (s.alike_register ctx _) _
  | login email password => cases h
  | refreshTokens token => exact htold (s.alike_refresh ctx token) _
  | logout token => exact htold (s.alike_logout ctx token) _
  | verifyEmail token => exact htold (s.alike_verifyEmail ctx token) _
  | sendVerifyEmailMessage email => exact htold (s.alike_sendVerifyEmail ctx email) _
  | forgetPassword token newPassword => cases h
  | sendForgetPasswordMessage email => exact htold (s.alike_sendForgetPassword ctx email) _
  | changePassword token oldPassword newPassword => cases h
  | getUser id =>
    exact (alike_expect _ _).bind_eq fun id =>
      alike_told (alike_ask ctx (.accountById id) StoreError.byKind_ofLookup)
  | getUserByEmail email =>
    exact alike_told (alike_ask ctx (.accountByEmail email) StoreError.byKind_ofLookup)
  | getUsers page =>
    refine (alike_ask ctx (.listAccounts _) StoreError.byKind_ofStore).bind fun as bs hab => ?_
    have htell : as.map UserMessage.ofAccount = bs.map UserMessage.ofAccount := by
      have hmap := congrArg (List.map UserMessage.ofAccount) hab
      simpa [Query.see, Function.comp_def] using hmap
    exact alike_pure (congrArg RpcResponse.users htell)
  | getMe token => exact alike_told (s.alike_getMe ctx token)
  | updateUserProfile token patch => exact htold (s.alike_updateProfile ctx token patch) _

/-! ## Operations that look at password hashes -/

theorem alike_verifyPassword (password hash : String) :
    (verifyPassword ctx password hash).Alike view Eq (verifyPassword ctx password hash) :=
  (uses_verifyPassword ctx trivial password hash).alike

theorem alike_login (email password : String) :
    (s.login ctx email password).Alike id Eq (s.login ctx email password) := by
  refine (alike_ask_eq ctx (.accountByEmail email) (Query.see_id _)
    StoreError.byKind_ofLookup).bind_eq fun a => ?_
  exact (alike_require _ _).bind_eq fun _ => (alike_verifyPassword ctx _ _).bind_eq fun right =>
    (alike_require _ _).bind_eq fun _ => (alike_endLiveSession ctx _).bind_eq fun _ =>
      s.alike_openSession ctx _

/-- Setting a password ends every change of one. -/
theorem alike_setPassword (id : Int) (password : String) :
    Procedure.Alike view Eq
      (do ask ctx (.setPassword id (← s.hashPassword ctx password)) .ofStore)
      (do ask ctx (.setPassword id (← s.hashPassword ctx password)) .ofStore) :=
  (s.alike_hashPassword ctx password).bind_eq fun hash =>
    alike_ask_eq ctx (.setPassword id hash) (fun _ => rfl) StoreError.byKind_ofStore

theorem alike_forgetPassword (token newPassword : String) :
    (s.forgetPassword ctx token newPassword).Alike id Eq
      (s.forgetPassword ctx token newPassword) := by
  refine (alike_require _ _).bind_eq fun _ => (s.alike_accountOfOpaque token _).bind_eq fun id => ?_
  refine (alike_ask_eq ctx (.accountById id) (Query.see_id _)
    StoreError.byKind_ofLookup).bind_eq fun a => ?_
  exact (alike_verifyPassword ctx _ _).bind_eq fun same => (alike_require _ _).bind_eq fun _ =>
    s.alike_setPassword ctx id newPassword

theorem alike_changePassword (token oldPassword newPassword : String) :
    (s.changePassword ctx token oldPassword newPassword).Alike id Eq
      (s.changePassword ctx token oldPassword newPassword) := by
  refine (alike_require _ _).bind_eq fun _ => (alike_require _ _).bind_eq fun _ =>
    (s.alike_accountOfAccess token).bind_eq fun id => ?_
  refine (alike_ask_eq ctx (.accountById id) (Query.see_id _)
    StoreError.byKind_ofLookup).bind_eq fun a => ?_
  exact (alike_verifyPassword ctx _ _).bind_eq fun right => (alike_require _ _).bind_eq fun _ =>
    s.alike_setPassword ctx id newPassword

/-- **Every call** goes alike with itself where accounts are seen as they
are. -/
theorem alike_serve_self (request : RpcRequest) :
    (s.serve ctx request).Alike id Eq (s.serve ctx request) := by
  cases h : request.readsHash with
  | false =>
    refine Program.Alike.closer (s.alike_serve ctx h) ?_
    exact fun a b hab => congrArg Account.unhashed hab
  | true =>
    cases request with
    | login email password =>
      exact (s.alike_login ctx email password).bind_eq fun _ => alike_pure rfl
    | forgetPassword token newPassword =>
      exact (s.alike_forgetPassword ctx token newPassword).bind_eq fun _ => alike_pure rfl
    | changePassword token oldPassword newPassword =>
      exact (s.alike_changePassword ctx token oldPassword newPassword).bind_eq
        fun _ => alike_pure rfl
    | _ => cases h

/-! ## Answering -/

/-- Failures that are alike are told the same way. -/
theorem status_eq_of_alike {e e' : Failure ServiceError} (h : e.Alike e') :
    e.map Status.ofError = e'.map Status.ofError := by
  cases h with
  | reported h => cases h <;> rfl
  | aborted => rfl

/-- What is carried out alike is answered the same. -/
theorem alike_handle (m : Metadata) {request : RpcRequest}
    (h : ∀ ctx, (s.serve ctx request).Alike view Eq (s.serve ctx request)) :
    Program.Alike view Eq (s.handle m request) (s.handle m request) := by
  have hreceive : Program.Alike view Eq m.receive m.receive := by
    refine .await fun fresh fresh' hfresh => .await fun now now' hnow => ?_
    obtain rfl : fresh = fresh' := hfresh
    obtain rfl : now = now' := hnow
    exact .done rfl
  refine hreceive.bind ?_
  rintro ctx _ rfl
  refine Program.Alike.bind (h ctx) fun r r' hr => .done ?_
  cases hr with
  | ok hsame => rw [hsame]
  | error he => exact congrArg Except.error (status_eq_of_alike he)

end Service

end SignOn
