import SignOn.Proofs.Account.EventTokens
import SignOn.Proofs.Config.Checked
/-!
# Internal failures

An operation reports an internal failure where it cannot hash a password
or cannot sign a token. (Where a token would expire beyond the 64-bit
numbers it reports nothing at all, and is aborted.) A service of settings that pass can do both
(`Service.Able`), and a password that is too long is a failure of another
kind. So no operation reports an internal failure, whatever becomes of its
queries (`Service.checked_never_internal`).
-/

namespace SignOn

/-- A failure that is neither the caller's nor that of storage or
publisher. -/
def ServiceError.isInternal : ServiceError → Bool
  | .internal _ => true
  | _ => false

/-- A report of one. -/
def Failure.isInternal : Failure ServiceError → Bool
  | .reported e => e.isInternal
  | .aborted => false

namespace ServiceError

theorem isInternal_ofStore (e : StoreError) : (ofStore e).isInternal = false := by
  cases e <;> rfl

theorem isInternal_ofLookup (e : StoreError) : (ofLookup e).isInternal = false := by
  cases e <;> rfl

end ServiceError

namespace Procedure

variable {α β : Type} {x : Procedure α}

/-! ## Procedures without internal failures -/

/-- A procedure that reports no internal failure, whatever it has done
before and whatever it is answered. -/
def Clean (x : Procedure α) : Prop :=
  ∀ h, Meets .free (fun _ _ => True) (fun _ e => e.isInternal = false) x h

theorem clean_pure (a : α) : Clean (pure a) := fun _ => trivial

theorem clean_report {e : ServiceError} (h : e.isInternal = false) :
    Clean (report e : Procedure α) :=
  fun _ => h

theorem Clean.bind {f : α → Procedure β} (hx : x.Clean) (hf : ∀ a, (f a).Clean) :
    Clean (x >>= f) :=
  fun h => meets_bind.2 ((hx h).mono (fun h' a _ => hf a h') fun _ _ he => he)

theorem Clean.map (hx : x.Clean) (f : α → β) : Clean (f <$> x) :=
  fun h => meets_map.2 (hx h)

theorem Clean.recover {handle : ServiceError → Procedure α} (hx : x.Clean)
    (hhandle : ∀ e, e.isInternal = false → (handle e).Clean) : Clean (recover x handle) :=
  fun h => meets_recover.2 ((hx h).mono (fun _ _ ha => ha) fun h' e he => by
    cases e with
    | reported e => exact hhandle e he h'
    | aborted => rfl)

theorem clean_step (e : Effect) : Clean (step e) :=
  fun _ => meets_step.2 ⟨trivial, fun _ _ _ => trivial⟩

theorem clean_now : Clean now :=
  (clean_step .clock).bind fun _ => clean_pure _

theorem clean_ofExcept {ε : Type} {failure : ε → ServiceError} {x : Except ε α}
    (h : ∀ e, x = .error e → (failure e).isInternal = false) : Clean (ofExcept failure x) :=
  fun _ => meets_ofExcept.2 ⟨fun _ _ => trivial, h⟩

theorem clean_require (condition : Bool) {failure : ServiceError}
    (h : failure.isInternal = false) : Clean (require condition failure) :=
  fun _ => meets_require.2 ⟨fun _ => trivial, fun _ => h⟩

theorem clean_expect (x : Option α) {failure : ServiceError} (h : failure.isInternal = false) :
    Clean (expect failure x) :=
  fun _ => meets_expect.2 ⟨fun _ _ => trivial, fun _ => h⟩

theorem clean_ask (ctx : RequestContext) (q : Query) {failure : StoreError → ServiceError}
    (h : ∀ e, (failure e).isInternal = false) : Clean (ask ctx q failure) :=
  (clean_step _).bind fun _ => clean_ofExcept fun e _ => h e

end Procedure

/-- Nothing was hashed: no salt was drawn. -/
def Unsalted (h : List Step) : Prop :=
  ∀ x ∈ h, x.effect ≠ .salt

theorem unsalted_nil : Unsalted [] := by
  simp [Unsalted]

theorem Unsalted.concat {h : List Step} (hh : Unsalted h) {x : Step} (hx : x.effect ≠ .salt) :
    Unsalted (h ++ [x]) := by
  intro y hy
  rcases List.mem_append.1 hy with hy | hy
  · exact hh y hy
  · rwa [List.mem_singleton.1 hy]

/-- The password that an operation is to set. -/
def Operation.newPassword? : Operation → Option String
  | .register input => some input.password
  | .forgetPassword _ new => some new
  | .changePassword _ _ new => some new
  | _ => none

namespace Service

open Procedure ServiceError

/-- A service that can hash and sign. -/
structure Able (s : Service) : Prop where
  hashes : Bcrypt.costAllowed s.hashCost.toNat = true
  signs : ∃ d, s.issuer.algorithm.digest? = some d

variable {s : Service} (ctx : RequestContext)

variable {now ttl : Int} {jti : String} {value : TokenValue} {kind : TokenKind}

theorem Able.exists_token (h : s.Able) (hfits : Fits64 (now + ttl)) :
    ∃ t, s.issuer.generate now jti value kind ttl = .ok t := by
  obtain ⟨d, hd⟩ := h.signs
  exact TokenIssuer.exists_generate_eq_ok hd hfits jti value kind

/-- Where it cannot sign a token, it is aborted. -/
theorem Able.eq_aborted (h : s.Able) {e : Failure TokenError}
    (he : s.issuer.generate now jti value kind ttl = .error e) : e = .aborted := by
  obtain ⟨d, hd⟩ := h.signs
  exact (TokenIssuer.generate_eq_error hd he).1

/-! ## Pieces -/

/-- **Hashing** fails for what is too long only. -/
theorem Able.clean_hashPassword (h : s.Able) (password : String) :
    (s.hashPassword ctx password).Clean := by
  refine ((clean_step _).bind fun _ => clean_require _ rfl).bind fun _ =>
    (clean_step .salt).bind fun salt => clean_ofExcept fun e he => ?_
  by_cases hsize : Utf8.size password ≤ Password.maxBytes
  · obtain ⟨hash, hhash⟩ := Password.exists_hash_eq_ok h.hashes salt hsize
    cases hhash.symm.trans he
  · rw [Password.hash, if_pos (by omega)] at he
    cases he
    rfl

theorem clean_verifyPassword (password hash : String) : (verifyPassword ctx password hash).Clean :=
  ((clean_step _).bind fun _ => clean_require _ rfl).bind fun _ => clean_pure _

theorem clean_requireValid (s : Service) (field : Field) (text : String) :
    (s.requireValid field text).Clean :=
  clean_require _ (by cases field <;> rfl)

theorem clean_requireValidIfPresent (s : Service) (field : Field) (text : Option String) :
    (s.requireValidIfPresent field text).Clean := by
  cases text with
  | none => exact clean_pure ()
  | some text => exact s.clean_requireValid field text

/-- **Signing** reports nothing. -/
theorem clean_issue {sign : Int → String → Except (Failure TokenError) IssuedToken}
    (hsign : ∀ now jti e, sign now jti = .error e → e = .aborted) : (issue sign).Clean := by
  refine clean_now.bind fun now => (clean_step .identifier).bind fun jti => fun _ =>
    meets_ofResult.2 ⟨fun _ _ => trivial, fun e he => ?_⟩
  rw [hsign now jti e he]
  rfl

theorem clean_accountOfAccess (s : Service) (token : String) : (s.accountOfAccess token).Clean :=
  clean_now.bind fun _ => clean_expect _ rfl

theorem clean_unwrap (token : String) : (unwrap token).Clean :=
  clean_ofExcept fun _ _ => rfl

theorem clean_accountOfOpaque (s : Service) (token : String) (kind : TokenKind) :
    (s.accountOfOpaque token kind).Clean :=
  (clean_unwrap token).bind fun _ => clean_now.bind fun _ => clean_expect _ rfl

theorem clean_announce (s : Service) (occasion : Occasion) (id : Int) (token : String) :
    (s.announce ctx occasion id token).Clean :=
  (clean_step _).bind fun _ => clean_ofExcept fun _ _ => rfl

theorem Able.clean_announceVerifyEmail (h : s.Able) (id : Int) :
    (s.announceVerifyEmail ctx id).Clean :=
  (clean_issue fun _ _ _ => h.eq_aborted).bind fun _ => s.clean_announce ctx _ _ _

theorem Able.clean_announceForgetPassword (h : s.Able) (id : Int) :
    (s.announceForgetPassword ctx id).Clean :=
  (clean_issue fun _ _ _ => h.eq_aborted).bind fun _ => s.clean_announce ctx _ _ _

theorem clean_endLiveSession (u : Int) : (endLiveSession ctx u).Clean := by
  refine (clean_step _).bind fun found => ?_
  split
  · exact clean_pure ()
  · exact clean_report (isInternal_ofStore _)
  · exact clean_ask ctx _ fun e => by cases e <;> rfl

theorem Able.clean_openSession (h : s.Able) (u : Int) : (s.openSession ctx u).Clean :=
  (clean_issue fun _ _ _ => h.eq_aborted).bind fun _ =>
    (clean_issue fun _ _ _ => h.eq_aborted).bind fun _ =>
      (clean_ask ctx _ fun e => by cases e <;> rfl).bind fun _ => clean_pure _

/-! ## Operations -/

theorem Able.clean_register (h : s.Able) (input : Registration) : (s.register ctx input).Clean := by
  refine (s.clean_requireValid _ _).bind fun _ => (s.clean_requireValid _ _).bind fun _ =>
    (s.clean_requireValid _ _).bind fun _ => (h.clean_hashPassword ctx _).bind fun hash =>
      (clean_step _).bind fun found => ?_
  split
  · exact clean_report rfl
  · refine (clean_ask ctx _ fun e => by cases e <;> rfl).bind fun id => Clean.bind ?_
      fun _ => clean_pure _
    exact (h.clean_announceVerifyEmail ctx id).recover fun _ _ => clean_pure ()
  · exact clean_report (isInternal_ofStore _)

theorem Able.clean_login (h : s.Able) (email password : String) :
    (s.login ctx email password).Clean :=
  (clean_ask ctx _ isInternal_ofLookup).bind fun _ => (clean_require _ rfl).bind fun _ =>
    (clean_verifyPassword ctx _ _).bind fun _ => (clean_require _ rfl).bind fun _ =>
      (clean_endLiveSession ctx _).bind fun _ => h.clean_openSession ctx _

theorem Able.clean_refresh (h : s.Able) (token : String) : (s.refresh ctx token).Clean :=
  (clean_unwrap token).bind fun _ => clean_now.bind fun _ => (clean_expect _ rfl).bind fun _ =>
    (clean_expect _ rfl).bind fun _ =>
      (clean_ask ctx _ fun e => by cases e <;> rfl).bind fun _ => (clean_require _ rfl).bind
        fun _ => clean_now.bind fun _ => (clean_expect _ rfl).bind fun _ =>
          (clean_require _ rfl).bind fun _ => (clean_ask ctx _ fun _ => rfl).bind fun _ =>
            h.clean_openSession ctx _

theorem clean_logout (s : Service) (token : String) : (s.logout ctx token).Clean := by
  refine (s.clean_accountOfAccess token).bind fun u =>
    (clean_endLiveSession ctx u).recover fun e he => ?_
  split
  · exact clean_pure ()
  · exact clean_report he

theorem Able.clean_sendVerifyEmail (h : s.Able) (email : String) :
    (s.sendVerifyEmail ctx email).Clean :=
  (clean_ask ctx _ isInternal_ofLookup).bind fun _ => (clean_require _ rfl).bind fun _ =>
    h.clean_announceVerifyEmail ctx _

theorem clean_verifyEmail (s : Service) (token : String) : (s.verifyEmail ctx token).Clean :=
  (s.clean_accountOfOpaque token _).bind fun _ =>
    (clean_ask ctx _ isInternal_ofLookup).bind fun _ => (clean_require _ rfl).bind fun _ =>
      clean_ask ctx _ fun e => by cases e <;> rfl

theorem Able.clean_sendForgetPassword (h : s.Able) (email : String) :
    (s.sendForgetPassword ctx email).Clean :=
  (clean_ask ctx _ isInternal_ofLookup).bind fun _ => (clean_require _ rfl).bind fun _ =>
    h.clean_announceForgetPassword ctx _

theorem Able.clean_forgetPassword (h : s.Able) (token new : String) :
    (s.forgetPassword ctx token new).Clean :=
  (s.clean_requireValid _ _).bind fun _ => (s.clean_accountOfOpaque token _).bind fun _ =>
    (clean_ask ctx _ isInternal_ofLookup).bind fun _ => (clean_verifyPassword ctx _ _).bind fun _ =>
      (clean_require _ rfl).bind fun _ => (h.clean_hashPassword ctx _).bind fun _ =>
        clean_ask ctx _ isInternal_ofStore

theorem Able.clean_changePassword (h : s.Able) (token old new : String) :
    (s.changePassword ctx token old new).Clean :=
  (s.clean_requireValid _ _).bind fun _ => (clean_require _ rfl).bind fun _ =>
    (s.clean_accountOfAccess token).bind fun _ =>
      (clean_ask ctx _ isInternal_ofLookup).bind fun _ =>
        (clean_verifyPassword ctx _ _).bind fun _ => (clean_require _ rfl).bind fun _ =>
          (h.clean_hashPassword ctx _).bind fun _ => clean_ask ctx _ isInternal_ofStore

theorem clean_updateProfile (s : Service) (token : String) (patch : ProfilePatch) :
    (s.updateProfile ctx token patch).Clean :=
  (s.clean_requireValidIfPresent _ _).bind fun _ =>
    (s.clean_requireValidIfPresent _ _).bind fun _ =>
      (s.clean_requireValidIfPresent _ _).bind fun _ =>
        (s.clean_accountOfAccess token).bind fun _ =>
          (clean_ask ctx _ isInternal_ofLookup).bind fun _ => clean_ask ctx _ isInternal_ofStore

theorem clean_getMe (s : Service) (token : String) : (s.getMe ctx token).Clean :=
  (s.clean_accountOfAccess token).bind fun _ => clean_ask ctx _ isInternal_ofLookup

theorem clean_purge : (purge ctx).Clean :=
  clean_now.bind fun _ => clean_ask ctx _ isInternal_ofStore

/-- **No operation reports an internal failure**, if hashing and signing
work. -/
theorem Able.clean_perform (h : s.Able) (op : Operation) : (s.perform ctx op).Clean := by
  cases op with
  | register input => exact (h.clean_register ctx input).map _
  | login email password => exact (h.clean_login ctx email password).map _
  | refresh token => exact (h.clean_refresh ctx token).map _
  | logout token => exact (s.clean_logout ctx token).map _
  | sendVerifyEmail email => exact (h.clean_sendVerifyEmail ctx email).map _
  | verifyEmail token => exact (s.clean_verifyEmail ctx token).map _
  | sendForgetPassword email => exact (h.clean_sendForgetPassword ctx email).map _
  | forgetPassword token new => exact (h.clean_forgetPassword ctx token new).map _
  | changePassword token old new => exact (h.clean_changePassword ctx token old new).map _
  | getMe token => exact (s.clean_getMe ctx token).map _
  | getUser id => exact (clean_ask ctx _ isInternal_ofLookup).map _
  | getUserByEmail email => exact (clean_ask ctx _ isInternal_ofLookup).map _
  | getUsers page => exact (clean_ask ctx _ isInternal_ofStore).map _
  | updateProfile token patch => exact (s.clean_updateProfile ctx token patch).map _
  | purge => exact (clean_purge ctx).map _

/-! ## Passwords that are too long -/

/-- The setting in which hashing comes last. -/
def hashingLast : Setting (List Step) :=
  .history (fun h _ => Unsalted h) fun _ _ => True

/-- What has become of an operation that does not succeed: once it came to
hashing, the password was refused. -/
def RefusedByHashing (h : List Step) (e : Failure ServiceError) : Prop :=
  ¬ Unsalted h → e = .reported .invalidPassword

variable {α : Type} {h : List Step}

/-- What comes before hashing may fail as it likes. -/
theorem refused_bind {β : Type} {x : Procedure α} {f : α → Procedure β}
    (hx : x.Uses fun e => e ≠ .salt) (hh : Unsalted h)
    (hf : ∀ a h', Unsalted h' → Meets hashingLast (fun _ _ => False) RefusedByHashing (f a) h') :
    Meets hashingLast (fun _ _ => False) RefusedByHashing (x >>= f) h := by
  have hunsalted := hx.meets (E := hashingLast) (I := Unsalted) (fun _ _ hI _ => hI)
    (fun _ _ _ _ hI he hr => by
      obtain ⟨-, rfl⟩ := hr
      exact hI.concat he) hh
  exact meets_bind.2 (hunsalted.mono (fun h' a hh' => hf a h' hh') fun _ _ hh' hnot =>
    absurd hh' hnot)

/-- **A password that is too long** is refused when it comes to hashing. -/
theorem hashPassword_refused (s : Service) {password : String}
    (hsize : Password.maxBytes < Utf8.size password) (hh : Unsalted h)
    {ok : List Step → String → Prop} :
    Meets hashingLast ok RefusedByHashing (s.hashPassword ctx password) h := by
  refine meets_bind.2 (meets_bind.2 (meets_history_step hh fun late _ => ?_))
  have hh' : Unsalted (h ++ [⟨.deadline ctx, late⟩]) := hh.concat (by simp)
  refine meets_require.2 ⟨fun _ => ?_, fun _ hnot => absurd hh' hnot⟩
  refine meets_bind.2 (meets_history_step hh' fun salt _ => meets_ofExcept.2 ?_)
  rw [Password.hash, if_pos hsize]
  refine ⟨fun hash hhash => ?_, fun e he _ => ?_⟩
  · cases hhash
  · rw [← Except.error.inj he]
    rfl

/-- **No operation sets a password that is too long.** If it comes to
hashing the password is refused, and that is its last step. -/
theorem perform_refused (s : Service) {op : Operation} {password : String}
    (hnew : op.newPassword? = some password) (hsize : Password.maxBytes < Utf8.size password) :
    Meets hashingLast (fun _ _ => False) RefusedByHashing (s.perform ctx op) [] := by
  have hhash {β : Type} {f : String → Procedure β} {h : List Step} (hh : Unsalted h) :
      Meets hashingLast (fun _ _ => False) RefusedByHashing (s.hashPassword ctx password >>= f) h :=
    meets_bind.2 (s.hashPassword_refused ctx hsize hh)
  cases op with
  | register input =>
    obtain rfl := Option.some.inj hnew
    exact meets_map.2 <|
      refused_bind (uses_require _ _) unsalted_nil fun _ _ hh₁ =>
      refused_bind (uses_require _ _) hh₁ fun _ _ hh₂ =>
      refused_bind (uses_require _ _) hh₂ fun _ _ hh₃ => hhash hh₃
  | forgetPassword token new =>
    obtain rfl := Option.some.inj hnew
    exact meets_map.2 <|
      refused_bind (uses_require _ _) unsalted_nil fun _ _ hh₁ =>
      refused_bind (s.uses_accountOfOpaque (by simp) token _) hh₁ fun _ _ hh₂ =>
      refused_bind (uses_ask (by simp) _) hh₂ fun _ _ hh₃ =>
      refused_bind (uses_verifyPassword ctx (by simp) _ _) hh₃ fun _ _ hh₄ =>
      refused_bind (uses_require _ _) hh₄ fun _ _ hh₅ => hhash hh₅
  | changePassword token old new =>
    obtain rfl := Option.some.inj hnew
    exact meets_map.2 <|
      refused_bind (uses_require _ _) unsalted_nil fun _ _ hh₁ =>
      refused_bind (uses_require _ _) hh₁ fun _ _ hh₂ =>
      refused_bind (s.uses_accountOfAccess (by simp) token) hh₂ fun _ _ hh₃ =>
      refused_bind (uses_ask (by simp) _) hh₃ fun _ _ hh₄ =>
      refused_bind (uses_verifyPassword ctx (by simp) _ _) hh₄ fun _ _ hh₅ =>
      refused_bind (uses_require _ _) hh₅ fun _ _ hh₆ => hhash hh₆
  | _ => cases hnew

/-! ## Runs -/

variable {w : World} {requests : List Request} {turns : List Turn} {i : Nat} {request : Request}

/-- **No run reports an internal failure**, if hashing and signing work. -/
theorem Able.not_internal (hs : s.Able) (hrequest : requests[i]? = some request)
    (detail : String) : ((s.start w requests).run turns).programs[i]? ≠
      some (.done (.error (.reported (.internal detail)))) := by
  intro hdone
  obtain ⟨prog, hprog, hclean⟩ := Pool.meets_run turns (s.start_getElem? w hrequest)
    (hs.clean_perform request.ctx request.operation [])
  obtain rfl := Option.some.inj (hprog.symm.trans hdone)
  cases hclean

/-- **A password that is too long is never set**, and an operation that
comes to hash it is over with that. -/
theorem tooLong_refused (hrequest : requests[i]? = some request) {password : String}
    (hnew : request.operation.newPassword? = some password)
    (hsize : Password.maxBytes < Utf8.size password) :
    (∀ a, ((s.start w requests).run turns).programs[i]? ≠ some (.done (.ok a))) ∧
      ((∃ t ∈ (s.start w requests).trace turns, t.program = i ∧ t.effect = .salt) →
        ((s.start w requests).run turns).programs[i]? =
          some (.done (.error (.reported .invalidPassword)))) := by
  obtain ⟨prog, hprog, hrefused⟩ := Pool.meets_run turns (s.start_getElem? w hrequest)
    (s.perform_refused request.ctx hnew hsize)
  rw [hprog]
  refine ⟨fun a ha => ?_, ?_⟩
  · obtain rfl := Option.some.inj ha
    exact hrefused
  · rintro ⟨t, ht, hi, hsalt⟩
    have hsalted : ¬ Unsalted (stepsOf i ((s.start w requests).trace turns)) := fun hnone =>
      hnone t.step (mem_stepsOf.2 ⟨t, ht, hi, rfl⟩) hsalt
    match prog, hrefused with
    | .done (.error e), hrefused => rw [hrefused hsalted]
    | .await e next, hrefused => exact absurd hrefused.1 hsalted

/-- **A service of settings that pass can hash and sign.** -/
theorem able_of_check {c : Config} (hc : c.check = .ok ()) (hs : ofConfig c = .ok s) : s.Able := by
  obtain ⟨j, v, -, -, hs', hsigns⟩ := (Config.check_eq_ok_iff_checked.1 hc).exists_service
  obtain rfl := Except.ok.inj (hs.symm.trans hs')
  exact ⟨costAllowed_of_check hc hs, hsigns⟩

/-- **A service of settings that pass reports no internal failure.** There
are an issuer, rules for fields and a service for such settings. The
service can hash every password that is not too long, at the cost of the
settings, and it can sign every token that expires within the 64-bit
numbers. No operation of any run ends with
an internal failure, on any world, in any order of steps, whatever faults
its queries meet and whatever is drawn. An operation that is to set a
password that is too long does not succeed, and if it comes to hashing it
it ends with the failure of an invalid password. -/
theorem checked_never_internal {c : Config} (hc : c.check = .ok ()) :
    ∃ j v s, TokenIssuer.ofConfig c.security.jwt = .ok j ∧ Validator.ofConfig c.validation = .ok v ∧
      ofConfig c = .ok s ∧ s.issuer = j ∧ s.validator = v ∧ s.hashCost = c.security.hashCost ∧
      (∀ salt password, Utf8.size password ≤ Password.maxBytes →
        ∃ hash, Password.hash s.hashCost salt password = .ok hash) ∧
      (∀ now jti value kind ttl, Fits64 (now + ttl) →
        ∃ t, s.issuer.generate now jti value kind ttl = .ok t) ∧
      ∀ (w : World) (requests : List Request) (turns : List Turn) (i : Nat),
        (∀ detail, ((s.start w requests).run turns).programs[i]? ≠
          some (.done (.error (.reported (.internal detail))))) ∧
        ∀ request password, requests[i]? = some request →
          request.operation.newPassword? = some password →
          Password.maxBytes < Utf8.size password →
          (∀ a, ((s.start w requests).run turns).programs[i]? ≠ some (.done (.ok a))) ∧
          ((∃ t ∈ (s.start w requests).trace turns, t.program = i ∧ t.effect = .salt) →
            ((s.start w requests).run turns).programs[i]? =
              some (.done (.error (.reported .invalidPassword)))) := by
  have hchecked := Config.check_eq_ok_iff_checked.1 hc
  obtain ⟨j, v, hj, hv, hs, -⟩ := hchecked.exists_service
  refine ⟨j, v, _, hj, hv, hs, rfl, rfl, rfl, ?_⟩
  set s : Service := ⟨j, v, c.notifications.subjects, c.security.hashCost⟩
  have hable : s.Able := able_of_check hc hs
  refine ⟨fun salt password hsize => Password.exists_hash_eq_ok hable.hashes salt hsize,
    fun _ _ _ _ _ => hable.exists_token, fun w requests turns i => ⟨fun detail hdone => ?_, ?_⟩⟩
  · -- whoever is over was asked for
    have hlt := (List.getElem?_eq_some_iff.1 hdone).1
    rw [Pool.length_run, start, List.length_map] at hlt
    exact hable.not_internal (List.getElem?_eq_getElem hlt) detail hdone
  · exact fun request password hrequest hnew hsize => tooLong_refused hrequest hnew hsize

/-- A registration with a password of 73 bytes, whose storage fails
throughout: it comes to hashing, and the password is refused. -/
theorem checked_never_internal_plain : plainConfig.check = .ok () ∧
    ∃ s turns, ofConfig plainConfig = .ok s ∧
      (∀ salt, ∃ hash, Password.hash s.hashCost salt "First123!" = .ok hash) ∧
      ((s.start {} [⟨unhurried, .register ⟨"", String.ofList (List.replicate 73 'a'), ""⟩⟩]).run
        turns).programs[0]? = some (.done (.error (.reported .invalidPassword))) := by
  have hc : plainConfig.check = .ok () := by decide
  obtain ⟨j, v, s, hj, hv, hs, -, -, -, hhash, -, hruns⟩ := checked_never_internal hc
  let draw : Draw := ⟨⟨0, 0⟩, "", default, some (.io ""), none⟩
  let turns : List Turn := [⟨0, draw⟩, ⟨0, draw⟩]
  refine ⟨hc, s, turns, hs, fun salt => hhash salt _ (by decide), ?_⟩
  obtain ⟨-, hrefused⟩ := hruns {} [⟨unhurried, .register ⟨"", _, ""⟩⟩] turns 0
  refine (hrefused _ _ rfl rfl (by decide)).2 ?_
  obtain rfl := Except.ok.inj (hs.symm.trans rfl)
  exact ⟨_, List.mem_cons_of_mem _ List.mem_cons_self, rfl, rfl⟩

end Service

end SignOn
