import SignOn.Proofs.Crypto.Bcrypt
import SignOn.Proofs.Event.Basic
import SignOn.Proofs.Service.Alone
import SignOn.Proofs.Store.Others
/-!
# What an operation leaves behind

An operation that is carried out by itself changes nothing, or it changes
the rows of the one account that it is about; and if it fails, then it
has changed nothing, except that it may have ended the session that it
was about to replace. `Service.Aftermath` has these cases, and
`Service.perform_settles` says that there are no others, whatever the
steps meet.
-/

namespace SignOn

namespace Operation

/-- Operations that only read. -/
def isRead : Operation → Bool
  | .getMe _ | .getUser _ | .getUserByEmail _ | .getUsers _ => true
  | _ => false

/-- Operations that replace the session of an account. -/
def replacesSession : Operation → Bool
  | .login _ _ | .refresh _ => true
  | _ => false

end Operation

namespace Service

variable (s : Service)

/-! ## Whom an operation is about -/

/-- Whether a password may be set. -/
def acceptsPassword (password : String) : Bool :=
  s.validator.accepts .password password && Utf8.size password ≤ Password.maxBytes

/-- Whether a field may be left as it is, or set. -/
def acceptsIfPresent (field : Field) (text : Option String) : Bool :=
  text.all (s.validator.accepts field)

/-- Whether the input of an operation is acceptable, before anything is
looked up. -/
def acceptsInput : Operation → Bool
  | .register input =>
    s.validator.accepts .email input.email && s.acceptsPassword input.password &&
      s.validator.accepts .displayName input.displayName
  | .forgetPassword _ new => s.acceptsPassword new
  | .changePassword _ old new => s.acceptsPassword new && old != new
  | .updateProfile _ patch =>
    s.acceptsIfPresent .displayName patch.displayName && s.acceptsIfPresent .phone patch.phone &&
      s.acceptsIfPresent .telegram patch.telegram
  | _ => true

/-- The account that an opaque token names, for a way to read the text
of it. -/
def namedByOpaque? (token : String) (read : String → Option Int) : Option Int :=
  (Wrapped.decodeString token).toOption.bind read

theorem namedByOpaque?_eq_some_iff {token : String} {read : String → Option Int} {u : Int} :
    namedByOpaque? token read = some u ↔
      ∃ t, Wrapped.decodeString token = .ok t ∧ read t = some u := by
  unfold namedByOpaque?
  cases Wrapped.decodeString token <;> simp [Except.toOption]

/-- The account that an operation names: the one that it opens, the one
with an address, the one that a token is for that is accepted at a
time. -/
def named? (now : Int) (store : Store) : Operation → Option Int
  | .register input =>
    if (store.accountWithEmail? input.email).isNone then some (store.lastAccountId + 1) else none
  | .login email _ | .sendVerifyEmail email | .sendForgetPassword email | .getUserByEmail email =>
    (store.accountWithEmail? email).map (·.id)
  | .refresh token => namedByOpaque? token fun t =>
    (s.issuer.parseRefresh now t).bind s.issuer.parseEmbeddedAccess
  | .verifyEmail token => namedByOpaque? token fun t => s.issuer.parseAccount now t .verifyEmail
  | .forgetPassword token _ =>
    namedByOpaque? token fun t => s.issuer.parseAccount now t .forgetPassword
  | .logout token | .changePassword token _ _ | .getMe token | .updateProfile token _ =>
    s.issuer.parseAccess now token
  | .getUser id => some id
  | .getUsers _ | .purge => none

/-- The account that an operation is about, if its input is acceptable
and names one. -/
def subject? (now : Int) (store : Store) (op : Operation) : Option Int :=
  if s.acceptsInput op then s.named? now store op else none

/-! ## What it may do -/

/-- What was published informs the owner of an account: it is an event,
and is read as one, with the number of the account, and with a token in
opaque form that was signed for the account. -/
def Informs (u : Int) (p : Published) : Prop :=
  ∃ (event : Event) (token : String) (c : Claims),
    p.payload = event.payload ∧ (event.accountId < 2 ^ 64 → p.event? = some event) ∧
    (event.accountId : Int) = u ∧ event.token = Wrapped.encodeString token ∧
    s.issuer.Signs token c ∧ c.value = .account u

/-- An answer is for an account: a pair has an access token that admits
the account, and a new account is this one. -/
def Serves (u : Int) : Answer → Prop
  | .pair p => ∃ c, s.issuer.Signs p.accessToken c ∧ c.kind = .access ∧ c.value = .account u
  | .id i => i = u
  | _ => True

/-- A result that gives out neither tokens nor an account. -/
def Bare : Except (Failure ServiceError) Answer → Prop
  | .ok (.pair _) | .ok (.id _) => False
  | _ => True

/-- Failures of opening a session: its tokens are not signed, or the
store does not take it. -/
def OpeningFailure (e : Failure ServiceError) : Prop :=
  (∃ c : Failure TokenError, e = c.map .ofToken) ∨ e = .reported .sessionExists ∨
    ∃ c, e = .reported (.ofStore c)

/-- How an operation that is carried out by itself leaves a store and an
outbox, when it is over. -/
inductive Aftermath (now : Int) (op : Operation) (store : Store) (outbox : Outbox) :
    Stage → Except (Failure ServiceError) Answer → Prop
  /-- As they were. -/
  | kept {l r} (hbare : Bare r) : Aftermath now op store outbox ⟨l, store, outbox⟩ r
  /-- Without the session that was to be replaced, as the opening of the
  new one failed. -/
  | ended {l t r} {e : Failure ServiceError} (hop : op.replacesSession = true)
      (hsubject : s.subject? now store op = some r.accountId)
      (htoken : ∀ token, op = .refresh token → Wrapped.decodeString token = .ok r.value)
      (hr : r ∈ store.sessions) (ht : t ∈ l) (hends : t.Answers (.endSession r.value) ())
      (hlive : t.time < r.ttl) (hfailure : OpeningFailure e) :
      Aftermath now op store outbox ⟨l, store.withEnded r t.time, outbox⟩ (.error e)
  /-- With changes for one account, and events to its owner. -/
  | changed {l store' new u a} (hread : op.isRead = false)
      (hsubject : s.subject? now store op = some u) (hstore : store.SameBut u store')
      (hnew : ∀ p ∈ new, s.Informs u p) (hserves : s.Serves u a) :
      Aftermath now op store outbox
        ⟨l, store', { outbox with published := outbox.published ++ new }⟩ (.ok a)
  /-- With a new account to whose owner nothing was sent, as the signing
  of the token was aborted. -/
  | aborted {l store' u input} (hop : op = .register input)
      (hsubject : s.subject? now store op = some u) (hstore : store.SameBut u store') :
      Aftermath now op store outbox ⟨l, store', outbox⟩ (.error .aborted)
  /-- Without sessions that had ended. -/
  | purged {l store' n} (hop : op = .purge) :
      Aftermath now op store outbox ⟨l, store', outbox⟩ (.ok (.count n))

/-- A procedure with a result that an operation answers with leaves
things as the operation may. Tokens are accepted at the time that the
first step of the operation reads. -/
def Settles {α : Type} (draws : Draws) (op : Operation) (store : Store) (outbox : Outbox)
    (f : α → Answer) (x : Procedure α) (σ : Stage) : Prop :=
  Procedure.Meets (.alone draws)
    (fun σ' a => s.Aftermath (draws 0 .clock).moment.seconds op store outbox σ' (.ok (f a)))
    (fun σ' e => s.Aftermath (draws 0 .clock).moment.seconds op store outbox σ' (.error e)) x σ

variable {s} {draws : Draws} {now u : Int} {op : Operation} {store store' : Store}
variable {outbox : Outbox} {l : List Transition} {ctx : RequestContext}

open Procedure

/-- Who fails before anything was done leaves things as they were. -/
theorem aftermath_error (e : Failure ServiceError) :
    s.Aftermath now op store outbox ⟨l, store, outbox⟩ (.error e) :=
  .kept trivial

/-- A change of one account, without events. -/
theorem aftermath_changed {a : Answer} (hread : op.isRead = false)
    (hsubject : s.subject? now store op = some u) (hstore : store.SameBut u store')
    (hserves : s.Serves u a) : s.Aftermath now op store outbox ⟨l, store', outbox⟩ (.ok a) := by
  have hchanged : s.Aftermath now op store outbox
      ⟨l, store', { outbox with published := outbox.published ++ [] }⟩ (.ok a) :=
    .changed hread hsubject hstore (by simp) hserves
  rwa [List.append_nil] at hchanged

/-! ## Pieces -/

/-- Hashing a password changes nothing. -/
theorem meets_alone_hash {password : String} {ok : Stage → String → Prop}
    {fail : Stage → Failure ServiceError → Prop}
    (hok : ∀ l' salt hash, l ⊆ l' → Password.hash s.hashCost salt password = .ok hash →
      ok ⟨l', store, outbox⟩ hash)
    (hfail : ∀ l' e, l ⊆ l' → fail ⟨l', store, outbox⟩ e) :
    Meets (.alone draws) ok fail (s.hashPassword ctx password) ⟨l, store, outbox⟩ := by
  have hbefore : (beforeDeadline ctx).Uses Effect.Inward :=
    (uses_step (P := Effect.Inward) (e := .deadline ctx) trivial).bind fun _ => uses_require _ _
  refine meets_bind.2 (hbefore.meets_alone (fun l₁ _ hsub₁ => ?_) hfail)
  refine meets_bind.2 ((uses_step (P := Effect.Inward) (e := .salt) trivial).meets_alone
    (fun l₂ salt hsub₂ => ?_) fun l₂ e hsub₂ => hfail l₂ e fun _ ht => hsub₂ (hsub₁ ht))
  have hsub : l ⊆ l₂ := fun _ ht => hsub₂ (hsub₁ ht)
  exact meets_ofExcept.2 ⟨fun hash hhash => hok l₂ salt hash hsub hhash, fun e _ => hfail l₂ _ hsub⟩

/-- A password that was hashed may be set, if it is acceptable. -/
theorem meets_alone_hashPassword {password : String} {ok : Stage → String → Prop}
    {fail : Stage → Failure ServiceError → Prop}
    (hok : ∀ l' hash, l ⊆ l' → Utf8.size password ≤ Password.maxBytes → ok ⟨l', store, outbox⟩ hash)
    (hfail : ∀ l' e, l ⊆ l' → fail ⟨l', store, outbox⟩ e) :
    Meets (.alone draws) ok fail (s.hashPassword ctx password) ⟨l, store, outbox⟩ :=
  meets_alone_hash (fun l' _ hash hsub hhash => hok l' hash hsub (Password.size_le_of_hash hhash))
    hfail

/-- Checking a password changes nothing. -/
theorem meets_alone_check {password hash : String} {ok : Stage → Bool → Prop}
    {fail : Stage → Failure ServiceError → Prop}
    (hok : ∀ l', l ⊆ l' → ok ⟨l', store, outbox⟩ (Password.verify password hash))
    (hfail : ∀ l' e, l ⊆ l' → fail ⟨l', store, outbox⟩ e) :
    Meets (.alone draws) ok fail (verifyPassword ctx password hash) ⟨l, store, outbox⟩ := by
  have hbefore : (beforeDeadline ctx).Uses Effect.Inward :=
    (uses_step (P := Effect.Inward) (e := .deadline ctx) trivial).bind fun _ => uses_require _ _
  exact meets_bind.2 (hbefore.meets_alone (fun l' _ hsub => hok l' hsub) hfail)

theorem meets_alone_verifyPassword {password hash : String} {ok : Stage → Bool → Prop}
    {fail : Stage → Failure ServiceError → Prop}
    (hok : ∀ l' right, l ⊆ l' → ok ⟨l', store, outbox⟩ right)
    (hfail : ∀ l' e, l ⊆ l' → fail ⟨l', store, outbox⟩ e) :
    Meets (.alone draws) ok fail (verifyPassword ctx password hash) ⟨l, store, outbox⟩ :=
  meets_alone_check (fun l' hsub => hok l' _ hsub) hfail

/-- The account that a token admits is the one that it names at the time
of the first step. -/
theorem meets_alone_accountOfAccess {token : String} {ok : Stage → Int → Prop}
    {fail : Stage → Failure ServiceError → Prop}
    (hok : ∀ l' u, s.issuer.parseAccess (draws 0 .clock).moment.seconds token = some u →
      ok ⟨l', store, outbox⟩ u)
    (hfail : ∀ l' e, fail ⟨l', store, outbox⟩ e) :
    Meets (.alone draws) ok fail (s.accountOfAccess token) ⟨[], store, outbox⟩ := by
  refine meets_bind.2 (meets_alone_now fun l' _ => ?_)
  exact meets_expect.2 ⟨fun u hu => hok l' u hu, fun _ => hfail l' _⟩

theorem meets_alone_accountOfOpaque {token : String} {kind : TokenKind} {ok : Stage → Int → Prop}
    {fail : Stage → Failure ServiceError → Prop}
    (hok : ∀ l' u, namedByOpaque? token
      (fun t => s.issuer.parseAccount (draws 0 .clock).moment.seconds t kind) = some u →
      ok ⟨l', store, outbox⟩ u)
    (hfail : ∀ l' e, fail ⟨l', store, outbox⟩ e) :
    Meets (.alone draws) ok fail (s.accountOfOpaque token kind) ⟨[], store, outbox⟩ := by
  refine meets_bind.2 (meets_ofExcept.2 ⟨fun t ht => ?_, fun e _ => hfail _ _⟩)
  refine meets_bind.2 (meets_alone_now fun l' _ => ?_)
  refine meets_expect.2 ⟨fun u hu => hok l' u ?_, fun _ => hfail l' _⟩
  rw [namedByOpaque?, ht]
  exact hu

/-- Whoever looks an account up by its address finds the one that the
store has. -/
theorem meets_alone_accountByEmail {email : String} {failure : StoreError → ServiceError}
    {ok : Stage → Account → Prop} {fail : Stage → Failure ServiceError → Prop}
    (hok : ∀ l' a, l ⊆ l' → store.accountWithEmail? email = some a → ok ⟨l', store, outbox⟩ a)
    (hfail : ∀ l' e, l ⊆ l' → fail ⟨l', store, outbox⟩ e) :
    Meets (.alone draws) ok fail (ask ctx (.accountByEmail email) failure)
      ⟨l, store, outbox⟩ := by
  refine meets_alone_look (fun _ => store.accountByEmail email) (fun _ => rfl)
    (fun l' _ a hsub ha => hok l' a hsub ?_) fun l' e hsub => hfail l' _ hsub
  unfold Store.accountByEmail at ha
  split at ha
  · next b hb => rw [hb, Except.ok.inj ha]
  · cases ha

/-- Signing a token for an account and sending it informs the owner. -/
theorem meets_alone_inform {sign : Int → String → Except (Failure TokenError) IssuedToken}
    {occasion : Occasion} {ok : Stage → Unit → Prop} {fail : Stage → Failure ServiceError → Prop}
    (hu : 0 ≤ u)
    (hsign : ∀ now jti t, sign now jti = .ok t →
      ∃ c, s.issuer.Signs t.token c ∧ c.value = .account u)
    (hok : ∀ l' p, s.Informs u p →
      ok ⟨l', store, { outbox with published := outbox.published ++ [p] }⟩ ())
    (hfail : ∀ l' e, fail ⟨l', store, outbox⟩ e) :
    Meets (.alone draws) ok fail
      (do
        let issued ← issue sign
        s.announce ctx occasion u issued.token) ⟨l, store, outbox⟩ := by
  refine meets_bind.2 (meets_alone_issue (fun l₁ now jti t _ ht => ?_) fun l₁ e _ => hfail l₁ _)
  obtain ⟨c, hsigns, hvalue⟩ := hsign now jti t ht
  refine meets_bind.2 (meets_alone_publish (fun l₂ _ => ?_) fun l₂ e _ => ?_)
  · have hid : ((u.natAbs : Nat) : Int) = u := by omega
    refine hok l₂ _ ⟨⟨u.natAbs, Wrapped.encodeString t.token⟩, t.token, c, rfl, fun hlt => ?_, hid,
      rfl, hsigns, hvalue⟩
    exact Event.event?_eq_some rfl hlt
  · exact hfail l₂ _

theorem meets_alone_announceVerifyEmail {ok : Stage → Unit → Prop}
    {fail : Stage → Failure ServiceError → Prop} (hu : 0 ≤ u)
    (hok : ∀ l' p, s.Informs u p →
      ok ⟨l', store, { outbox with published := outbox.published ++ [p] }⟩ ())
    (hfail : ∀ l' e, fail ⟨l', store, outbox⟩ e) :
    Meets (.alone draws) ok fail (s.announceVerifyEmail ctx u) ⟨l, store, outbox⟩ :=
  meets_alone_inform hu
    (fun _ _ _ ht => ⟨_, (TokenIssuer.generate_eq_ok ht).2.1, rfl⟩) hok hfail

theorem meets_alone_announceForgetPassword {ok : Stage → Unit → Prop}
    {fail : Stage → Failure ServiceError → Prop} (hu : 0 ≤ u)
    (hok : ∀ l' p, s.Informs u p →
      ok ⟨l', store, { outbox with published := outbox.published ++ [p] }⟩ ())
    (hfail : ∀ l' e, fail ⟨l', store, outbox⟩ e) :
    Meets (.alone draws) ok fail (s.announceForgetPassword ctx u) ⟨l, store, outbox⟩ :=
  meets_alone_inform hu
    (fun _ _ _ ht => ⟨_, (TokenIssuer.generate_eq_ok ht).2.1, rfl⟩) hok hfail

/-- Ending the live session of an account ends that one session, or finds
none. -/
theorem meets_alone_endLiveSession (hsessions : store.SessionsInOrder) {ok : Stage → Unit → Prop}
    {fail : Stage → Failure ServiceError → Prop} (hkept : ∀ l', ok ⟨l', store, outbox⟩ ())
    (hended : ∀ l' t r, r ∈ store.sessions → r.accountId = u → t ∈ l' →
      t.Answers (.endSession r.value) () → t.time < r.ttl →
      ok ⟨l', store.withEnded r t.time, outbox⟩ ())
    (hfail : ∀ l' e, fail ⟨l', store, outbox⟩ e) :
    Meets (.alone draws) ok fail (endLiveSession ctx u) ⟨l, store, outbox⟩ := by
  refine meets_bind.2 (meets_alone_query (fun l₁ t₁ r store' _ _ _ hrun => ?_) fun l₁ e _ => ?_)
  · obtain ⟨hfound, rfl⟩ := Store.unchanged_eq_ok_iff.1 hrun
    obtain ⟨hr, hu, -⟩ := Store.mem_of_liveSession hfound
    refine meets_alone_ask (fun l₂ t _ store' _ ht hanswers hend => ?_) fun l₂ e _ => hfail l₂ _
    obtain ⟨hlive, rfl⟩ := hsessions.eq_withEnded hr (Store.changed_eq_ok_iff.1 hend)
    exact hended l₂ t r hr hu ht hanswers hlive
  · match e with
    | .notFound _ => exact hkept l₁
    | .io _ | .connection _ | .migration _ | .query _ | .conflict _ | .deadlineExceeded =>
      exact hfail l₁ _

/-- Opening a session opens one for the account, with an access token
that admits it, or it fails and changes nothing. -/
theorem meets_alone_openSession {ok : Stage → TokenPair → Prop}
    {fail : Stage → Failure ServiceError → Prop}
    (hok : ∀ l' store' p, store.SameBut u store' → s.Serves u (.pair p) →
      ok ⟨l', store', outbox⟩ p)
    (hfail : ∀ l' e, l ⊆ l' → OpeningFailure e → fail ⟨l', store, outbox⟩ e) :
    Meets (.alone draws) ok fail (s.openSession ctx u) ⟨l, store, outbox⟩ := by
  refine meets_bind.2 (meets_alone_issue (fun l₁ now₁ jti₁ access hsub₁ haccess => ?_)
    fun l₁ e hsub₁ => hfail l₁ _ hsub₁ (.inl ⟨e, rfl⟩))
  refine meets_bind.2 (meets_alone_issue (fun l₂ now₂ jti₂ refresh hsub₂ _ => ?_)
    fun l₂ e hsub₂ => hfail l₂ _ (fun _ ht => hsub₂ (hsub₁ ht)) (.inl ⟨e, rfl⟩))
  have hsub : l ⊆ l₂ := fun _ ht => hsub₂ (hsub₁ ht)
  refine meets_bind.2 (meets_alone_ask (fun l₃ t id store' _ _ _ hrun => ?_) fun l₃ e hsub₃ => ?_)
  · refine hok l₃ store' _ (Store.sameBut_of_openSession hrun) ?_
    exact ⟨_, (TokenIssuer.generate_eq_ok haccess).2.1, rfl, rfl⟩
  · refine hfail l₃ _ (fun _ ht => hsub₃ (hsub ht)) (.inr ?_)
    cases e with
    | conflict what => exact .inl rfl
    | _ => exact .inr ⟨_, rfl⟩

/-- A field that is there must be acceptable. -/
theorem meets_requireValidIfPresent {σ : Stage} {field : Field} {text : Option String}
    {ok : Stage → Unit → Prop} {fail : Stage → Failure ServiceError → Prop}
    (hok : s.acceptsIfPresent field text = true → ok σ ()) (hfail : ∀ e, fail σ e) :
    Meets (.alone draws) ok fail (s.requireValidIfPresent field text) σ := by
  cases text with
  | none => exact hok rfl
  | some text => exact meets_require.2 ⟨hok, fun _ => hfail _⟩

/-! ## Accounts -/

theorem register_settles (haccounts : store.AccountsInOrder) (input : Registration) :
    s.Settles draws (.register input) store outbox .id (s.register ctx input)
      ⟨[], store, outbox⟩ := by
  refine meets_bind.2 (meets_require.2 ⟨fun hemail => ?_, fun _ => aftermath_error _⟩)
  refine meets_bind.2 (meets_require.2 ⟨fun hpassword => ?_, fun _ => aftermath_error _⟩)
  refine meets_bind.2 (meets_require.2 ⟨fun hname => ?_, fun _ => aftermath_error _⟩)
  refine meets_bind.2 (meets_alone_hashPassword (fun l₁ hash _ hsize => ?_)
    fun l₁ e _ => aftermath_error e)
  refine meets_bind.2 (meets_alone_query (fun l₂ t a store' _ _ _ hrun => ?_) fun l₂ e _ => ?_)
  · obtain ⟨-, rfl⟩ := Store.unchanged_eq_ok_iff.1 hrun
    exact aftermath_error _
  · match e with
    | .io _ | .connection _ | .migration _ | .query _ | .conflict _ | .deadlineExceeded =>
      exact aftermath_error _
    | .notFound _ =>
      -- the lookup may have failed by a fault, but the insertion tells that the address is free
      refine meets_bind.2 (meets_alone_ask (fun l₃ t id store' _ _ _ hinsert => ?_)
        fun l₃ e _ => aftermath_error _)
      obtain ⟨rfl, hsame⟩ := Store.sameBut_of_insertAccount hinsert
      have hfree : store.accountWithEmail? input.email = none :=
        Store.accountWithEmail?_of_insertAccount hinsert
      have hsubject : s.subject? (draws 0 .clock).moment.seconds store (.register input) =
          some (store.lastAccountId + 1) := by
        simp [subject?, acceptsInput, acceptsPassword, named?, hemail, hpassword, hname, hsize,
          hfree]
      have hlast := haccounts.last_nonneg
      refine meets_bind.2 (meets_recover.2 (meets_alone_announceVerifyEmail (by omega)
        (fun l₄ p hp => ?_) fun l₄ e => ?_))
      · exact .changed rfl hsubject hsame (by simpa using hp) rfl
      · cases e with
        | reported e => exact aftermath_changed rfl hsubject hsame rfl
        | aborted => exact .aborted rfl hsubject hsame

theorem sendVerifyEmail_settles (haccounts : store.AccountsInOrder) (email : String) :
    s.Settles draws (.sendVerifyEmail email) store outbox (fun _ => .done)
      (s.sendVerifyEmail ctx email) ⟨[], store, outbox⟩ := by
  refine meets_bind.2 (meets_alone_accountByEmail (fun l₁ a _ ha => ?_)
    fun l₁ e _ => aftermath_error e)
  refine meets_bind.2 (meets_require.2 ⟨fun _ => ?_, fun _ => aftermath_error _⟩)
  have hsubject : s.subject? (draws 0 .clock).moment.seconds store (.sendVerifyEmail email) =
      some a.id := by
    simp [subject?, acceptsInput, named?, ha]
  have hpos := haccounts.positive a (List.mem_of_find?_eq_some ha)
  refine meets_alone_announceVerifyEmail (by omega) (fun l₂ p hp => ?_)
    fun l₂ e => aftermath_error e
  exact .changed rfl hsubject (.refl _ _) (by simpa using hp) trivial

theorem sendForgetPassword_settles (haccounts : store.AccountsInOrder) (email : String) :
    s.Settles draws (.sendForgetPassword email) store outbox (fun _ => .done)
      (s.sendForgetPassword ctx email) ⟨[], store, outbox⟩ := by
  refine meets_bind.2 (meets_alone_accountByEmail (fun l₁ a _ ha => ?_)
    fun l₁ e _ => aftermath_error e)
  refine meets_bind.2 (meets_require.2 ⟨fun _ => ?_, fun _ => aftermath_error _⟩)
  have hsubject : s.subject? (draws 0 .clock).moment.seconds store (.sendForgetPassword email) =
      some a.id := by
    simp [subject?, acceptsInput, named?, ha]
  have hpos := haccounts.positive a (List.mem_of_find?_eq_some ha)
  refine meets_alone_announceForgetPassword (by omega) (fun l₂ p hp => ?_)
    fun l₂ e => aftermath_error e
  exact .changed rfl hsubject (.refl _ _) (by simpa using hp) trivial

theorem verifyEmail_settles (token : String) :
    s.Settles draws (.verifyEmail token) store outbox (fun _ => .done) (s.verifyEmail ctx token)
      ⟨[], store, outbox⟩ := by
  refine meets_bind.2 (meets_alone_accountOfOpaque (fun l₁ u hu => ?_)
    fun l₁ e => aftermath_error e)
  refine meets_bind.2 (meets_alone_look (fun _ => store.accountById u) (fun _ => rfl)
    (fun l₂ _ a _ _ => ?_) fun l₂ e _ => aftermath_error _)
  refine meets_bind.2 (meets_require.2 ⟨fun _ => ?_, fun _ => aftermath_error _⟩)
  refine meets_alone_ask (fun l₃ t _ store' _ _ _ hrun => ?_) fun l₃ e _ => aftermath_error _
  exact aftermath_changed rfl hu (Store.sameBut_of_confirmEmail (Store.changed_eq_ok_iff.1 hrun))
    trivial

theorem forgetPassword_settles (token new : String) :
    s.Settles draws (.forgetPassword token new) store outbox (fun _ => .done)
      (s.forgetPassword ctx token new) ⟨[], store, outbox⟩ := by
  refine meets_bind.2 (meets_require.2 ⟨fun hvalid => ?_, fun _ => aftermath_error _⟩)
  refine meets_bind.2 (meets_alone_accountOfOpaque (fun l₁ u hu => ?_)
    fun l₁ e => aftermath_error e)
  refine meets_bind.2 (meets_alone_look (fun _ => store.accountById u) (fun _ => rfl)
    (fun l₂ _ a _ _ => ?_) fun l₂ e _ => aftermath_error _)
  refine meets_bind.2 (meets_alone_verifyPassword (fun l₃ same _ => ?_)
    fun l₃ e _ => aftermath_error e)
  refine meets_bind.2 (meets_require.2 ⟨fun _ => ?_, fun _ => aftermath_error _⟩)
  refine meets_bind.2 (meets_alone_hashPassword (fun l₄ hash _ hsize => ?_)
    fun l₄ e _ => aftermath_error e)
  refine meets_alone_ask (fun l₅ t _ store' _ _ _ hrun => ?_) fun l₅ e _ => aftermath_error _
  have hsubject : s.subject? (draws 0 .clock).moment.seconds store (.forgetPassword token new) =
      some u := by
    simp [subject?, acceptsInput, acceptsPassword, hvalid, hsize, named?, hu]
  exact aftermath_changed rfl hsubject
    (Store.sameBut_of_setPassword (Store.changed_eq_ok_iff.1 hrun)) trivial

theorem changePassword_settles (token old new : String) :
    s.Settles draws (.changePassword token old new) store outbox (fun _ => .done)
      (s.changePassword ctx token old new) ⟨[], store, outbox⟩ := by
  refine meets_bind.2 (meets_require.2 ⟨fun hvalid => ?_, fun _ => aftermath_error _⟩)
  refine meets_bind.2 (meets_require.2 ⟨fun hne => ?_, fun _ => aftermath_error _⟩)
  refine meets_bind.2 (meets_alone_accountOfAccess (fun l₁ u hu => ?_)
    fun l₁ e => aftermath_error e)
  refine meets_bind.2 (meets_alone_look (fun _ => store.accountById u) (fun _ => rfl)
    (fun l₂ _ a _ _ => ?_) fun l₂ e _ => aftermath_error _)
  refine meets_bind.2 (meets_alone_verifyPassword (fun l₃ right _ => ?_)
    fun l₃ e _ => aftermath_error e)
  refine meets_bind.2 (meets_require.2 ⟨fun _ => ?_, fun _ => aftermath_error _⟩)
  refine meets_bind.2 (meets_alone_hashPassword (fun l₄ hash _ hsize => ?_)
    fun l₄ e _ => aftermath_error e)
  refine meets_alone_ask (fun l₅ t _ store' _ _ _ hrun => ?_) fun l₅ e _ => aftermath_error _
  have hsubject : s.subject? (draws 0 .clock).moment.seconds store
      (.changePassword token old new) = some u := by
    simp [subject?, acceptsInput, acceptsPassword, hvalid, hsize, hne, named?, hu]
  exact aftermath_changed rfl hsubject
    (Store.sameBut_of_setPassword (Store.changed_eq_ok_iff.1 hrun)) trivial

theorem updateProfile_settles (token : String) (patch : ProfilePatch) :
    s.Settles draws (.updateProfile token patch) store outbox (fun _ => .done)
      (s.updateProfile ctx token patch) ⟨[], store, outbox⟩ := by
  refine meets_bind.2 (meets_requireValidIfPresent (fun hname => ?_) aftermath_error)
  refine meets_bind.2 (meets_requireValidIfPresent (fun hphone => ?_) aftermath_error)
  refine meets_bind.2 (meets_requireValidIfPresent (fun htelegram => ?_) aftermath_error)
  refine meets_bind.2 (meets_alone_accountOfAccess (fun l₁ u hu => ?_)
    fun l₁ e => aftermath_error e)
  refine meets_bind.2 (meets_alone_look (fun _ => store.accountById u) (fun _ => rfl)
    (fun l₂ _ a _ _ => ?_) fun l₂ e _ => aftermath_error _)
  refine meets_alone_ask (fun l₃ t _ store' _ _ _ hrun => ?_) fun l₃ e _ => aftermath_error _
  have hsubject : s.subject? (draws 0 .clock).moment.seconds store
      (.updateProfile token patch) = some u := by
    simp [subject?, acceptsInput, hname, hphone, htelegram, named?, hu]
  exact aftermath_changed rfl hsubject
    (Store.sameBut_of_updateProfile (Store.changed_eq_ok_iff.1 hrun)) trivial

/-- Whoever only looks leaves everything as it was. -/
theorem look_settles {q : Query} {failure : StoreError → ServiceError} {f : q.Answer → Answer}
    (look : Except StoreError q.Answer) (hlook : ∀ now, store.run now q = store.unchanged look)
    (hbare : ∀ x, Bare (.ok (f x))) :
    s.Settles draws op store outbox f (ask ctx q failure) ⟨l, store, outbox⟩ :=
  meets_alone_look (fun _ => look) hlook (fun _ _ x _ _ => .kept (hbare x))
    fun _ _ _ => aftermath_error _

theorem getMe_settles (token : String) :
    s.Settles draws (.getMe token) store outbox .account (s.getMe ctx token)
      ⟨[], store, outbox⟩ := by
  refine meets_bind.2 (meets_alone_accountOfAccess (fun l₁ u _ => ?_) fun l₁ e => aftermath_error e)
  exact look_settles (store.accountById u) (fun _ => rfl) fun _ => trivial

/-! ## Sessions -/

/-- An operation that replaces a session does not only read. -/
theorem isRead_of_replacesSession (hop : op.replacesSession = true) : op.isRead = false := by
  cases op with
  | login email password => rfl
  | refresh token => rfl
  | _ => cases hop

/-- The opening of a session where none was ended before. -/
theorem openSession_settles (hop : op.replacesSession = true)
    (hsubject : s.subject? (draws 0 .clock).moment.seconds store op = some u) :
    s.Settles draws op store outbox .pair (s.openSession ctx u) ⟨l, store, outbox⟩ := by
  refine meets_alone_openSession (fun l₁ store₁ p hsame hserves => ?_)
    fun l₁ e _ _ => aftermath_error e
  exact aftermath_changed (isRead_of_replacesSession hop) hsubject hsame hserves

/-- The opening of a session in place of one that was ended. -/
theorem openSession_settles_of_ended {t : Transition} {r : Session}
    (hop : op.replacesSession = true)
    (hsubject : s.subject? (draws 0 .clock).moment.seconds store op = some r.accountId)
    (htoken : ∀ token, op = .refresh token → Wrapped.decodeString token = .ok r.value)
    (hr : r ∈ store.sessions) (ht : t ∈ l) (hends : t.Answers (.endSession r.value) ())
    (hlive : t.time < r.ttl) :
    s.Settles draws op store outbox .pair (s.openSession ctx r.accountId)
      ⟨l, store.withEnded r t.time, outbox⟩ := by
  refine meets_alone_openSession (fun l₁ store₁ p hsame hserves => ?_) fun l₁ e hsub hfailure => ?_
  · have hstore := (Store.sameBut_withEnded store r t.time).trans hsame
    exact aftermath_changed (isRead_of_replacesSession hop) hsubject hstore hserves
  · exact .ended hop hsubject htoken hr (hsub ht) hends hlive hfailure

theorem login_settles (hsessions : store.SessionsInOrder) (email password : String) :
    s.Settles draws (.login email password) store outbox .pair (s.login ctx email password)
      ⟨[], store, outbox⟩ := by
  refine meets_bind.2 (meets_alone_accountByEmail (fun l₁ a _ ha => ?_)
    fun l₁ e _ => aftermath_error e)
  refine meets_bind.2 (meets_require.2 ⟨fun _ => ?_, fun _ => aftermath_error _⟩)
  refine meets_bind.2 (meets_alone_verifyPassword (fun l₂ right _ => ?_)
    fun l₂ e _ => aftermath_error e)
  refine meets_bind.2 (meets_require.2 ⟨fun _ => ?_, fun _ => aftermath_error _⟩)
  have hsubject : s.subject? (draws 0 .clock).moment.seconds store (.login email password) =
      some a.id := by
    simp [subject?, acceptsInput, named?, ha]
  refine meets_bind.2 (meets_alone_endLiveSession hsessions (fun l₃ => ?_)
    (fun l₃ t r hr hu ht hends hlive => ?_) fun l₃ e => aftermath_error e)
  · exact openSession_settles rfl hsubject
  · rw [← hu] at hsubject ⊢
    exact openSession_settles_of_ended rfl hsubject (fun _ => nofun) hr ht hends hlive

theorem refresh_settles (hsessions : store.SessionsInOrder) (token : String) :
    s.Settles draws (.refresh token) store outbox .pair (s.refresh ctx token)
      ⟨[], store, outbox⟩ := by
  refine meets_bind.2 (meets_ofExcept.2 ⟨fun t ht => ?_, fun _ _ => aftermath_error _⟩)
  refine meets_bind.2 (meets_alone_now fun l₁ _ => ?_)
  refine meets_bind.2 (meets_expect.2 ⟨fun access haccess => ?_, fun _ => aftermath_error _⟩)
  refine meets_bind.2 (meets_expect.2 ⟨fun u hu => ?_, fun _ => aftermath_error _⟩)
  have hsubject : s.subject? (draws 0 .clock).moment.seconds store (.refresh token) = some u := by
    have haccess : s.issuer.parseRefresh (draws 0 .clock).moment.seconds t = some access := haccess
    simp [subject?, acceptsInput, named?, namedByOpaque?, ht, Except.toOption, haccess, hu]
  refine meets_bind.2 (meets_alone_look (fun now => store.liveSession now u) (fun _ => rfl)
    (fun l₂ _ r _ hfound => ?_) fun l₂ e _ => aftermath_error _)
  obtain ⟨hr, howner, -⟩ := Store.mem_of_liveSession hfound
  rw [← howner] at hsubject ⊢
  refine meets_bind.2 (meets_require.2 ⟨fun hvalue => ?_, fun _ => aftermath_error _⟩)
  have hvalue : r.value = t := beq_iff_eq.1 hvalue
  refine meets_bind.2 (meets_alone_now fun l₃ _ => ?_)
  refine meets_bind.2 (meets_expect.2 ⟨fun stored _ => ?_, fun _ => aftermath_error _⟩)
  refine meets_bind.2 (meets_require.2 ⟨fun _ => ?_, fun _ => aftermath_error _⟩)
  refine meets_bind.2 (meets_alone_ask (fun l₄ t' _ store' _ ht' hends hrun => ?_)
    fun l₄ e _ => aftermath_error _)
  obtain ⟨hlive, rfl⟩ := hsessions.eq_withEnded hr (Store.changed_eq_ok_iff.1 hrun)
  refine openSession_settles_of_ended rfl hsubject (fun token' htoken' => ?_) hr ht' hends hlive
  cases htoken'
  rw [hvalue]
  exact ht

theorem logout_settles (hsessions : store.SessionsInOrder) (token : String) :
    s.Settles draws (.logout token) store outbox (fun _ => .done) (s.logout ctx token)
      ⟨[], store, outbox⟩ := by
  refine meets_bind.2 (meets_alone_accountOfAccess (fun l₁ u hu => ?_)
    fun l₁ e => aftermath_error e)
  refine meets_recover.2 (meets_alone_endLiveSession hsessions (fun l₂ => ?_)
    (fun l₂ t r hr hu' _ _ _ => ?_) fun l₂ e => ?_)
  · exact .kept trivial
  · subst hu'
    exact aftermath_changed rfl hu (Store.sameBut_withEnded store r t.time) trivial
  · cases e with
    | aborted => exact aftermath_error _
    | reported e =>
      dsimp only
      split
      · exact .kept trivial
      · exact aftermath_error _

theorem purge_settles :
    s.Settles draws .purge store outbox .count (purge ctx) ⟨[], store, outbox⟩ := by
  refine meets_bind.2 (meets_alone_now fun l₁ _ => ?_)
  exact meets_alone_ask (fun l₂ t n store' _ _ _ _ => .purged rfl) fun l₂ e _ => aftermath_error _

/-! ## All operations -/

/-- **How an operation leaves things** that is carried out by itself,
whatever its steps meet. -/
theorem perform_settles (s : Service) (ctx : RequestContext) (op : Operation) (draws : Draws)
    (haccounts : store.AccountsInOrder) (hsessions : store.SessionsInOrder) (outbox : Outbox) :
    s.Settles draws op store outbox id (s.perform ctx op) ⟨[], store, outbox⟩ := by
  cases op with
  | register input => exact meets_map.2 (register_settles haccounts input)
  | login email password => exact meets_map.2 (login_settles hsessions email password)
  | refresh token => exact meets_map.2 (refresh_settles hsessions token)
  | logout token => exact meets_map.2 (logout_settles hsessions token)
  | sendVerifyEmail email => exact meets_map.2 (sendVerifyEmail_settles haccounts email)
  | verifyEmail token => exact meets_map.2 (verifyEmail_settles token)
  | sendForgetPassword email => exact meets_map.2 (sendForgetPassword_settles haccounts email)
  | forgetPassword token new => exact meets_map.2 (forgetPassword_settles token new)
  | changePassword token old new => exact meets_map.2 (changePassword_settles token old new)
  | getMe token => exact meets_map.2 (getMe_settles token)
  | getUser id =>
    exact meets_map.2 (look_settles (store.accountById id) (fun _ => rfl) fun _ => trivial)
  | getUserByEmail email =>
    exact meets_map.2 (look_settles (store.accountByEmail email) (fun _ => rfl) fun _ => trivial)
  | getUsers page =>
    exact meets_map.2 (look_settles (.ok (store.listAccounts page)) (fun _ => rfl) fun _ => trivial)
  | updateProfile token patch => exact meets_map.2 (updateProfile_settles token patch)
  | purge => exact meets_map.2 purge_settles

end Service

end SignOn
