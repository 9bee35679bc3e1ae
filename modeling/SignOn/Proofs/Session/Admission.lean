import SignOn.Proofs.Account.Conduct
import SignOn.Proofs.Session.Outcomes
/-!
# From a registration to a session

In calm conditions a registration that is in order opens an account, a
token confirms its address, and a login with the password that it was
registered with opens a session: `Service.exists_session`.
-/

namespace SignOn

/-- A step that leaves the store alone. -/
def Effect.SparesStore (e : Effect) : Prop :=
  ∀ ctx q, e ≠ .query ctx q

namespace Service

open Procedure

variable {s : Service} {now u : Int} {σ : Scene} {ctx : RequestContext} {w : World}
variable {input : Registration} {token t : String} {a : Account}

/-- What no step changes a procedure does not change. -/
theorem sparesStore_calm {α : Type} {x : Procedure α} (hx : x.Uses Effect.SparesStore) :
    Meets (.calm now) (fun σ' _ => σ'.store = σ.store) (fun σ' _ => σ'.store = σ.store) x σ := by
  refine hx.meets (E := .calm now) (I := fun σ' => σ'.store = σ.store) (fun _ _ _ _ => trivial)
    (fun σ₁ e r σ₂ hσ₁ he hanswers => ?_) rfl
  cases e with
  | identifier =>
    obtain ⟨-, rfl⟩ := hanswers
    exact hσ₁
  | salt =>
    obtain rfl : σ₂ = σ₁ := hanswers
    exact hσ₁
  | clock | deadline ctx =>
    obtain ⟨-, rfl⟩ := hanswers
    exact hσ₁
  | publish ctx subject payload =>
    rcases hanswers with ⟨outbox, -, -, rfl⟩ | ⟨e, -, -, rfl⟩
    · exact hσ₁
    · exact hσ₁
  | query ctx q => exact absurd rfl (he ctx q)

/-! ## Registration -/

/-- A registration that is in order: its fields are acceptable, and its
password can be hashed. -/
structure Acceptable (s : Service) (input : Registration) : Prop where
  email : s.validator.accepts .email input.email = true
  password : s.validator.accepts .password input.password = true
  displayName : s.validator.accepts .displayName input.displayName = true
  size : Utf8.size input.password ≤ Password.maxBytes
  cost : Bcrypt.costAllowed s.hashCost.toNat = true

/-- A password that can be hashed verifies against its hash. -/
theorem hashPassword_calm {password : String} (hsize : Utf8.size password ≤ Password.maxBytes)
    (hcost : Bcrypt.costAllowed s.hashCost.toNat = true) :
    Meets (.calm now) (fun σ' hash => σ' = σ ∧ Password.verify password hash = true)
      (fun _ _ => False) (s.hashPassword ctx password) σ := by
  refine meets_bind.2 (meets_bind.2 (meets_step.2 ⟨trivial, ?_⟩))
  rintro late _ ⟨rfl, rfl⟩
  refine meets_require.2 ⟨fun _ => meets_bind.2 (meets_step.2 ⟨trivial, ?_⟩), by simp⟩
  rintro salt _ rfl
  obtain ⟨hash, hhash⟩ := Password.exists_hash_eq_ok hcost salt hsize
  rw [hhash]
  exact ⟨rfl, Password.verify_of_hash hhash⟩

/-- Telling the owner of an account leaves the store, and is not aborted as
long as the token expires within the 64-bit numbers. -/
theorem announceVerifyEmail_calm (hfits : Fits64 (now + s.issuer.verifyEmailTtl)) :
    Meets (.calm now) (fun σ' _ => σ'.store = σ.store)
      (fun σ' e => σ'.store = σ.store ∧ ∃ err, e = .reported err)
      (s.announceVerifyEmail ctx u) σ := by
  have hspares := s.uses_announceVerifyEmail ctx (P := Effect.SparesStore) nofun nofun
    (fun _ _ => nofun) u
  refine ((sparesStore_calm hspares).and (announceVerifyEmail_reported (fun _ _ => trivial) ?_)).mono
    (fun _ _ h => h.1) fun _ _ h => h
  rintro _ m _ ⟨rfl, -⟩
  exact hfits

/-- **A registration that is in order** opens an account with a hash of
the password. -/
theorem register_calm (h : s.Acceptable input) (hfits : Fits64 (now + s.issuer.verifyEmailTtl))
    (hfree : ∀ a ∈ σ.store.accounts, a.email ≠ input.email) :
    Meets (.calm now)
      (fun σ' id => ∃ hash, Password.verify input.password hash = true ∧
        σ.store.insertAccount now ⟨input.email, hash, input.displayName⟩ = .ok (id, σ'.store))
      (fun _ _ => False) (s.register ctx input) σ := by
  refine meets_bind.2 (meets_require.2 ⟨fun _ => ?_, by simp [h.email]⟩)
  refine meets_bind.2 (meets_require.2 ⟨fun _ => ?_, by simp [h.password]⟩)
  refine meets_bind.2 (meets_require.2 ⟨fun _ => ?_, by simp [h.displayName]⟩)
  refine meets_bind.2 ((hashPassword_calm h.size h.cost).mono ?_ fun _ _ he => he)
  rintro σ₁ hash ⟨heq, hverify⟩
  rw [heq]
  -- nobody has the address, which is what the lookup must say
  refine meets_bind.2 (meets_calm_step (fun a store hrun => ?_) fun e hrun => ?_)
  · obtain ⟨ha, hemail⟩ := Store.mem_of_accountByEmail (Store.unchanged_eq_ok_iff.1 hrun).1
    exact absurd hemail (hfree a ha)
  obtain ⟨rfl, -⟩ := Store.accountByEmail_eq_error_iff.1 (Store.unchanged_eq_error_iff.1 hrun)
  have hinsert : σ.store.insertAccount now ⟨input.email, hash, input.displayName⟩ = .ok _ :=
    Store.insertAccount_eq_ok now hfree
  refine meets_bind.2 (meets_calm_ask_of_run hinsert ?_)
  -- the store stays as it is, whether or not the event gets out
  refine meets_bind.2 (meets_recover.2 ((announceVerifyEmail_calm hfits).mono
    (fun σ' _ hstore => ?_) fun σ' e he => ?_))
  · refine ⟨hash, hverify, ?_⟩
    rw [hstore]
    exact hinsert
  · obtain ⟨hstore, err, rfl⟩ := he
    refine ⟨hash, hverify, ?_⟩
    rw [hstore]
    exact hinsert

/-! ## The address -/

/-- An account that is there is found by its number. -/
theorem meets_calm_accountById {failure : StoreError → ServiceError} {ok : Scene → Account → Prop}
    {fail : Scene → Failure ServiceError → Prop} (hσ : σ.store.AccountsInOrder)
    (ha : a ∈ σ.store.accounts) (hok : ok σ a) :
    Meets (.calm now) ok fail (ask ctx (.accountById a.id) failure) σ := by
  have hfound : σ.store.accountById a.id = .ok a := by
    rw [Store.accountById, hσ.account?_eq_some_iff.2 ⟨ha, rfl⟩]
  exact meets_calm_ask_of_run (Store.unchanged_eq_ok_iff.2 ⟨hfound, rfl⟩) hok

/-- A token that is accepted tells its account. -/
theorem accountOfOpaque_calm {kind : TokenKind} (hdecode : Wrapped.decodeString token = .ok t)
    (hparse : s.issuer.parseAccount now t kind = some u) :
    Meets (.calm now) (fun σ' id => σ' = σ ∧ id = u) (fun _ _ => False)
      (s.accountOfOpaque token kind) σ := by
  refine meets_bind.2 ?_
  rw [unwrap, hdecode]
  refine meets_bind.2 (meets_calm_now ?_)
  rw [hparse]
  exact ⟨rfl, rfl⟩

/-- **A token that confirms an address** does so, if the address was not
confirmed. -/
theorem verifyEmail_calm (hσ : σ.store.AccountsInOrder) (ha : a ∈ σ.store.accounts)
    (hconfirmed : a.emailConfirmed = false) (hdecode : Wrapped.decodeString token = .ok t)
    (hparse : s.issuer.parseAccount now t .verifyEmail = some a.id) :
    Meets (.calm now) (fun σ' _ => σ.store.confirmEmail now a.id = .ok σ'.store)
      (fun _ _ => False) (s.verifyEmail ctx token) σ := by
  refine meets_bind.2 ((accountOfOpaque_calm hdecode hparse).mono ?_ fun _ _ he => he)
  rintro σ₁ id ⟨heq, rfl⟩
  rw [heq]
  -- the account that is looked up is the one that the token names
  refine meets_bind.2 (meets_calm_accountById hσ ha ?_)
  refine meets_bind.2 (meets_require.2 ⟨fun _ => ?_, by simp [hconfirmed]⟩)
  have hconfirm : σ.store.confirmEmail now a.id = .ok _ := hσ.confirmEmail_eq_ok ha hconfirmed
  have hrun : σ.store.run now (.confirmEmail a.id) = .ok ((), _) :=
    Store.changed_eq_ok_iff.2 hconfirm
  exact meets_calm_ask_of_run hrun hconfirm

/-! ## A session -/

/-- A token for an account can be issued, of any kind. -/
theorem exists_account_token (hj : s.issuer.Ready now) {ttl : Int} (hpos : 0 < ttl)
    (hfits : Fits64 (now + ttl)) (hu : Fits64 u) (kind : TokenKind) :
    ∃ t, s.issuer.parseAccount now t kind = some u := by
  obtain ⟨d, hd⟩ := hj.digest
  obtain ⟨issued, hissued⟩ := TokenIssuer.exists_generate_eq_ok hd hfits "" (.account u) kind
  have hvalue : ∀ id, (TokenValue.account u).accountId? = some id → Fits64 id := by
    rintro id ⟨⟩
    exact hu
  have hclaims := (TokenIssuer.claims?_of_generate hissued hj.time hpos hvalue).1
  refine ⟨issued.token, TokenIssuer.parseAccount_eq_some_iff.2 ⟨_, hclaims, ?_, rfl⟩⟩
  show now ≤ now + ttl
  omega

variable {es : List Errand}

/-- A registration can be next. -/
theorem Sequential.exists_register (hes : s.Sequential w es) (hnow : ∀ e ∈ es, e.time = now)
    (hj : s.issuer.Ready now) (h : s.Acceptable input)
    (hfits : Fits64 (now + s.issuer.verifyEmailTtl))
    (hfree : ∀ a ∈ (s.after w es).store.accounts, a.email ≠ input.email) :
    ∃ e, s.Sequential w (es ++ [e]) ∧ e.time = now ∧ e.operation = .register input ∧
      ∃ hash id, Password.hash s.hashCost (.replicate 16 0) input.password = .ok hash ∧
        (s.after w es).store.insertAccount now ⟨input.email, hash, input.displayName⟩ =
          .ok (id, (s.after w (es ++ [e])).store) := by
  obtain ⟨ids, hnext⟩ := hes.exists_concat_calmDraws (.register input) unhurried rfl
    (fun e he => Int.le_of_eq (hnow e he)) hj
  obtain ⟨id, -, hash, -, hinsert⟩ := hnext.exists_of_meets rfl (register_calm h hfits hfree)
  have hhash : Password.hash s.hashCost (.replicate 16 0) input.password = .ok hash :=
    hash_eq_of_registered (calmly_concat.1 hnext.calmly).2 rfl rfl (after_concat ▸ hinsert)
  exact ⟨_, hnext, rfl, rfl, hash, id, hhash, hinsert⟩

/-- **So can one for each of several addresses.** -/
theorem exists_registered (hj : s.issuer.Ready now) (hfits : Fits64 (now + s.issuer.verifyEmailTtl))
    (hw : w.store = .empty) (inputs : List Registration) (h : ∀ input ∈ inputs, s.Acceptable input)
    (hemails : (inputs.map Registration.email).Nodup) :
    ∃ es, s.Sequential w es ∧ (∀ e ∈ es, e.time = now) ∧
      (s.after w es).store.accounts.map Account.email = inputs.map Registration.email := by
  -- from the last on, since a registration comes after others
  induction inputs using List.reverseRecOn with
  | nil =>
    refine ⟨[], sequential_nil, by simp, ?_⟩
    show w.store.accounts.map _ = _
    rw [hw]
    rfl
  | append_singleton inputs input ih =>
    rw [List.map_append, List.nodup_append] at hemails
    obtain ⟨es, hes, hnow, haccounts⟩ := ih (fun i hi => h i (by simp [hi])) hemails.1
    have hfree : ∀ a ∈ (s.after w es).store.accounts, a.email ≠ input.email := by
      intro a ha
      have hmem := List.mem_map_of_mem ha (f := Account.email)
      rw [haccounts] at hmem
      exact hemails.2.2 _ hmem _ (by simp)
    obtain ⟨e, hnext, htime, -, hash, id, -, hinsert⟩ :=
      hes.exists_register hnow hj (h input (by simp)) hfits hfree
    obtain ⟨-, -, hstore⟩ := Store.insertAccount_eq_ok_iff.1 hinsert
    refine ⟨es ++ [e], hnext, fun e' he' => ?_, ?_⟩
    · rcases List.mem_append.1 he' with he' | he'
      · exact hnow e' he'
      · rw [List.mem_singleton.1 he']
        exact htime
    · rw [hstore, List.map_append, List.map_append, haccounts]
      rfl

/-- The confirmation of an address can be next. -/
theorem Sequential.exists_verifyEmail (hes : s.Sequential w es) (hnow : ∀ e ∈ es, e.time = now)
    (hj : s.issuer.Ready now) (hpos : 0 < s.issuer.verifyEmailTtl)
    (hfits : Fits64 (now + s.issuer.verifyEmailTtl))
    (hstore : (s.after w es).store.AccountsInOrder) (ha : a ∈ (s.after w es).store.accounts)
    (hconfirmed : a.emailConfirmed = false) (hid : Fits64 a.id) :
    ∃ e, s.Sequential w (es ++ [e]) ∧ (∀ e' ∈ es ++ [e], e'.time = now) ∧
      (s.after w es).store.confirmEmail now a.id = .ok (s.after w (es ++ [e])).store := by
  obtain ⟨t, ht⟩ := exists_account_token hj hpos hfits hid .verifyEmail
  obtain ⟨e, _, hnext, htimes, -, -, hconfirm⟩ := hes.exists_next hnow hj
    (.verifyEmail (Wrapped.encodeString t)) rfl
    (verifyEmail_calm hstore ha hconfirmed (Wrapped.decodeString_encodeString t) ht)
  exact ⟨e, hnext, htimes, hconfirm⟩

/-- A login can be next. -/
theorem Sequential.exists_login (hes : s.Sequential w es) (hnow : ∀ e ∈ es, e.time = now)
    (hj : s.issuer.Ready now) (hw : w.store = .empty)
    (hfits : Fits64 (s.after w es).store.lastAccountId) {email password : String}
    (hadmitted : Admitted (s.after w es).store email password) :
    ∃ e p, s.Sequential w (es ++ [e]) ∧ e.time = now ∧ e.operation = .login email password ∧
      (s.carryOut (s.after w es) e).result = .ok (.pair p) ∧
      Fits64 (s.after w (es ++ [e])).store.lastAccountId ∧
      LiveToken (s.after w (es ++ [e])).store now p.refreshToken := by
  obtain ⟨draws, hnext⟩ := hes.exists_concat (.login email password) unhurried rfl
    (fun e he => Int.le_of_eq (hnow e he)) hj
  have hconsistent := (hes.holds_iff hw hfits fun e he => Int.le_of_eq (hnow e he)).1
  obtain ⟨p, hp, -, -, ⟨u, v, -, hv, hopened⟩, hsame⟩ := hnext.exists_of_meets rfl
    ((login_calm hconsistent hj hfits).mono (fun _ _ h => h) fun _ _ h => h.1 hadmitted)
  have hlt : now < now + s.issuer.refreshTtl := by
    have := hj.refresh.1
    omega
  obtain ⟨r, hr, -, hrv, httl⟩ := (hopened u v _ hlt).2 (by simp)
  refine ⟨_, p, hnext, rfl, rfl, hp, ?_, r, hr, ?_, httl ▸ hlt⟩
  · exact (congrArg Fits64 hsame.2).mpr hfits
  · rw [hv, hrv, Wrapped.decodeString_encodeString]

/-- **Whoever is first gets an account**, for a registration that is in
order. -/
theorem exists_account (h : s.Acceptable input) (hj : s.issuer.Ready now)
    (hfits : Fits64 (now + s.issuer.verifyEmailTtl)) (hw : w.store = .empty) :
    ∃ e hash, s.Sequential w [e] ∧ e.time = now ∧ e.operation = .register input ∧
      Password.hash s.hashCost (.replicate 16 0) input.password = .ok hash ∧
      (s.after w [e]).store =
        { Store.empty with
          accounts := [Store.empty.opened now ⟨input.email, hash, input.displayName⟩]
          lastAccountId := 1 } := by
  have hempty : (s.after w []).store = .empty := hw
  obtain ⟨e, hes, htime, hop, hash, id, hhash, hinsert⟩ := sequential_nil.exists_register (w := w)
    (by simp) hj h hfits (by rw [hempty]; simp [Store.empty])
  rw [hempty, Store.insertAccount_eq_ok now (by simp [Store.empty])] at hinsert
  obtain ⟨-, hstore⟩ := Prod.mk.inj (Except.ok.inj hinsert)
  exact ⟨e, hash, hes, htime, hop, hhash, hstore.symm⟩

/-- A store has one account, of whoever has registered, and its address is
confirmed. -/
structure SoleAccount (s : Service) (input : Registration) (store : Store) (a : Account) : Prop where
  accounts : store.accounts = [a]
  last : store.lastAccountId = 1
  email : a.email = input.email
  confirmed : a.emailConfirmed = true
  hash : Password.hash s.hashCost (.replicate 16 0) input.password = .ok a.passwordHash

/-- **Whoever is first gets an account that is confirmed**, with a token for
it. -/
theorem exists_soleAccount (h : s.Acceptable input) (hj : s.issuer.Ready now)
    (hpos : 0 < s.issuer.verifyEmailTtl) (hfits : Fits64 (now + s.issuer.verifyEmailTtl))
    (hw : w.store = .empty) :
    ∃ es a, s.Sequential w es ∧ (∀ e ∈ es, e.time = now) ∧
      s.SoleAccount input (s.after w es).store a := by
  have hfirst : Fits64 1 := by decide
  obtain ⟨e₁, hash, h₁, htime₁, -, hhash, hstore₁⟩ := exists_account h hj hfits hw
  have hnow₁ : ∀ e ∈ [e₁], e.time = now := by simpa using htime₁
  have hlast₁ : Fits64 (s.after w [e₁]).store.lastAccountId := by
    rw [hstore₁]
    exact hfirst
  have horder : (s.after w [e₁]).store.AccountsInOrder :=
    (h₁.holds_iff hw hlast₁ fun e he => Int.le_of_eq (hnow₁ e he)).1.accounts
  let a := Store.empty.opened now ⟨input.email, hash, input.displayName⟩
  have ha : a ∈ (s.after w [e₁]).store.accounts := by
    rw [hstore₁]
    exact List.mem_singleton_self a
  obtain ⟨e₂, h₂, hnow₂, hconfirm⟩ :=
    h₁.exists_verifyEmail hnow₁ hj hpos hfits horder ha rfl hfirst
  rw [horder.confirmEmail_eq_ok ha rfl] at hconfirm
  have hstore₂ := Except.ok.inj hconfirm
  refine ⟨_, { a with emailConfirmed := true, updatedAt := now }, h₂, hnow₂, ?_, ?_, rfl, rfl, hhash⟩
  · rw [← hstore₂, hstore₁]
    rfl
  · rw [← hstore₂, hstore₁]
    rfl

/-- **Whoever is registered can get a session**: after the registration,
and the confirmation of the address, a login gets one. -/
theorem exists_session (h : s.Acceptable input) (hj : s.issuer.Ready now)
    (hpos : 0 < s.issuer.verifyEmailTtl) (hfits : Fits64 (now + s.issuer.verifyEmailTtl))
    (hw : w.store = .empty) :
    ∃ es e p, s.Sequential w (es ++ [e]) ∧ (∀ e' ∈ es ++ [e], e'.time = now) ∧
      e.operation = .login input.email input.password ∧
      (s.carryOut (s.after w es) e).result = .ok (.pair p) ∧
      Fits64 (s.after w (es ++ [e])).store.lastAccountId ∧
      LiveToken (s.after w (es ++ [e])).store now p.refreshToken := by
  obtain ⟨es, a, hes, hnow, hsole⟩ := exists_soleAccount h hj hpos hfits hw
  have hadmitted : Admitted (s.after w es).store input.email input.password := by
    refine ⟨a, ?_, hsole.email, hsole.confirmed, Password.verify_of_hash hsole.hash⟩
    rw [hsole.accounts]
    exact List.mem_singleton_self a
  have hlast : Fits64 (s.after w es).store.lastAccountId := by
    rw [hsole.last]
    decide
  obtain ⟨e₃, p, h₃, htime₃, hop, hp, hfits₃, hlive⟩ :=
    hes.exists_login hnow hj hw hlast hadmitted
  refine ⟨_, e₃, p, h₃, fun e he => ?_, hop, hp, hfits₃, hlive⟩
  rcases List.mem_append.1 he with he | he
  · exact hnow e he
  · rw [List.mem_singleton.1 he]
    exact htime₃

/-- A service without rules for fields. -/
def plain : Service where
  issuer := ⟨[], .hs256, 60, 3600, 60, 60⟩
  validator := ⟨[], [], [], [], []⟩
  subjects := {}
  hashCost := 4

theorem ready_plain : plain.issuer.Ready 0 :=
  ⟨⟨_, rfl⟩, by decide, by decide, by decide⟩

theorem acceptable_plain : plain.Acceptable ⟨"owner@example.org", "password", "Owner"⟩ :=
  ⟨rfl, rfl, rfl, by decide, by decide⟩

/-- It lets a first account be opened. -/
theorem exists_account_plain : ∃ e hash, plain.Sequential {} [e] ∧ e.time = 0 ∧
    e.operation = .register ⟨"owner@example.org", "password", "Owner"⟩ ∧
    Password.hash 4 (.replicate 16 0) "password" = .ok hash ∧ (plain.after {} [e]).store =
      { Store.empty with
        accounts := [Store.empty.opened 0 ⟨"owner@example.org", hash, "Owner"⟩]
        lastAccountId := 1 } :=
  exists_account acceptable_plain ready_plain (by decide) rfl

/-- It lets sessions be opened. -/
theorem exists_session_plain :
    ∃ es p, plain.Sequential {} es ∧ (∀ e ∈ es, e.time = 0) ∧
      Fits64 (plain.after {} es).store.lastAccountId ∧
      LiveToken (plain.after {} es).store 0 p := by
  obtain ⟨es, e, p, hes, hnow, -, -, hfits, hlive⟩ :=
    exists_session acceptable_plain ready_plain (by decide) (by decide) (w := {}) rfl
  exact ⟨es ++ [e], p.refreshToken, hes, hnow, hfits, hlive⟩

end Service

end SignOn
